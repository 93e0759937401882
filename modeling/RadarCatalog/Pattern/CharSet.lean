/-!
# Sets of characters

A set of characters is a list of ranges of code points. Sets are built from ranges by union,
intersection, difference, symmetric difference and complement; `CharSet.holds` says what is in one.

A set may be known to hold a letter of either case whenever it holds the other. The empty set and
its complement are, and the operations keep the knowledge where both sides have it.
-/

namespace RadarCatalog.Pattern

/-- Ranges of code points, as first and last of each. -/
abbrev Ranges := List (Nat × Nat)

/-- The common part of two ranges. -/
def overlap? (r s : Nat × Nat) : Option (Nat × Nat) :=
  let first := max r.1 s.1
  let last := min r.2 s.2
  if first ≤ last then some (first, last) else none

/-- What is left of a range without another one. -/
def cutRange (s r : Nat × Nat) : Ranges :=
  let low := if r.1 < s.1 then [(r.1, min r.2 (s.1 - 1))] else []
  let high := if s.2 < r.2 then [(max r.1 (s.2 + 1), r.2)] else []
  low ++ high

/-- The common part of two lists of ranges. -/
def commonRanges (r s : Ranges) : Ranges := r.flatMap fun x => s.filterMap (overlap? x)

/-- The first list of ranges without the second. -/
def withoutRanges (r s : Ranges) : Ranges := s.foldl (fun left x => left.flatMap (cutRange x)) r

/-- A set of characters; `caseless` says that it is known to hold both cases of each letter or
    none. -/
structure CharSet where
  ranges : Ranges
  caseless : Bool
deriving DecidableEq, Inhabited

namespace CharSet

/-- The set without a character. -/
def empty : CharSet := ⟨[], true⟩

/-- The set of some ranges. -/
def ofRanges (ranges : Ranges) : CharSet := ⟨ranges, false⟩

/-- The set of one character. -/
def single (c : Char) : CharSet := ofRanges [(c.toNat, c.toNat)]

/-- The set holds the character. -/
def holds (s : CharSet) (c : Char) : Bool :=
  s.ranges.any fun r => r.1 ≤ c.toNat && c.toNat ≤ r.2

/-- All of the ASCII range. -/
def isAscii (s : CharSet) : Bool := s.ranges.all fun r => r.2 < 0x80

/-- One character alone. -/
def isSingle (s : CharSet) : Bool :=
  match s.ranges with
  | [] => false
  | r :: rs => r.1 = r.2 && rs.all (· = r)

/-- The characters of either set. -/
def union (s t : CharSet) : CharSet :=
  if t.ranges.isEmpty then s else ⟨s.ranges ++ t.ranges, s.caseless && t.caseless⟩

/-- The characters of both sets. -/
def inter (s t : CharSet) : CharSet :=
  if s.ranges.isEmpty || t.ranges.isEmpty then empty
  else ⟨commonRanges s.ranges t.ranges, s.caseless && t.caseless⟩

/-- The characters of the first set that are not in the second. -/
def without (s t : CharSet) : CharSet :=
  if s.ranges.isEmpty || t.ranges.isEmpty then s
  else ⟨withoutRanges s.ranges t.ranges, s.caseless && t.caseless⟩

/-- The characters of exactly one of the sets. -/
def symmetric (s t : CharSet) : CharSet := (s.union t).without (s.inter t)

/-- The characters of `all` that are not in the set. -/
def complement (all : Ranges) (s : CharSet) : CharSet :=
  if s.ranges.isEmpty then ⟨all, true⟩ else ⟨withoutRanges all s.ranges, s.caseless⟩

/-- The set with the other case of each ASCII letter in it. -/
def foldAscii (s : CharSet) : CharSet :=
  let lower := (commonRanges s.ranges [(0x61, 0x7A)]).map fun r => (r.1 - 0x20, r.2 - 0x20)
  let upper := (commonRanges s.ranges [(0x41, 0x5A)]).map fun r => (r.1 + 0x20, r.2 + 0x20)
  ⟨s.ranges ++ lower ++ upper, true⟩

end CharSet

/-- The code points of all characters. -/
def allCharacters : Ranges := [(0x0, 0xD7FF), (0xE000, 0x10FFFF)]

/-- The values of all bytes. -/
def allBytes : Ranges := [(0x0, 0xFF)]

/-! ## Named sets -/

/-- The sets that a letter behind a backslash names. -/
inductive ClassName where
  | digit
  | space
  | word
deriving DecidableEq

/-- The ASCII digits. -/
def digitRanges : Ranges := [(0x30, 0x39)]

/-- The white space of the ASCII range. -/
def spaceRanges : Ranges := [(0x9, 0xD), (0x20, 0x20)]

/-- The letters and digits of the ASCII range, and the low line. -/
def wordRanges : Ranges := [(0x30, 0x39), (0x41, 0x5A), (0x5F, 0x5F), (0x61, 0x7A)]

/-- The characters of the ASCII range that a name stands for. -/
def ClassName.ranges : ClassName → Ranges
  | .digit => digitRanges
  | .space => spaceRanges
  | .word => wordRanges

/-- The ranges of a set that is named between colons. -/
def namedRanges? (name : String) : Option Ranges :=
  match name with
  | "alnum" => some [(0x30, 0x39), (0x41, 0x5A), (0x61, 0x7A)]
  | "alpha" => some [(0x41, 0x5A), (0x61, 0x7A)]
  | "ascii" => some [(0x0, 0x7F)]
  | "blank" => some [(0x9, 0x9), (0x20, 0x20)]
  | "cntrl" => some [(0x0, 0x1F), (0x7F, 0x7F)]
  | "digit" => some digitRanges
  | "graph" => some [(0x21, 0x7E)]
  | "lower" => some [(0x61, 0x7A)]
  | "print" => some [(0x20, 0x7E)]
  | "punct" => some [(0x21, 0x2F), (0x3A, 0x40), (0x5B, 0x60), (0x7B, 0x7E)]
  | "space" => some spaceRanges
  | "upper" => some [(0x41, 0x5A)]
  | "word" => some wordRanges
  | "xdigit" => some [(0x30, 0x39), (0x41, 0x46), (0x61, 0x66)]
  | _ => none

end RadarCatalog.Pattern
