/-!
# Blank characters

The characters with the Unicode property `White_Space`, and what is left of a text when they are
taken off both ends.
-/

namespace RadarCatalog.Text

/-- The code points of the Unicode property `White_Space`, as first and last of each range. -/
def blankRanges : List (Nat × Nat) :=
  [(0x9, 0xD), (0x20, 0x20), (0x85, 0x85), (0xA0, 0xA0), (0x1680, 0x1680), (0x2000, 0x200A),
    (0x2028, 0x2029), (0x202F, 0x202F), (0x205F, 0x205F), (0x3000, 0x3000)]

/-- White space in the sense of Unicode. -/
def isBlank (c : Char) : Bool := blankRanges.any fun r => r.1 ≤ c.toNat && c.toNat ≤ r.2

/-- The text without the blank characters at its two ends. -/
def trim (cs : List Char) : List Char :=
  ((cs.dropWhile isBlank).reverse.dropWhile isBlank).reverse

/-- No character but blank ones. -/
def isBlankText (s : String) : Bool := s.toList.all isBlank

end RadarCatalog.Text
