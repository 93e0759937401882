/-!
# Texts without control sequences

What is written for a terminal may hold control sequences: an escape character with some marks and
a letter, a sequence of parameters with a letter at its end, or a string for the terminal or its
system. `withoutControls` leaves them out, and with them every control character that is no white
space. White space inside a sequence of parameters is text, and ends the leaving out until the next
control character.
-/

namespace RadarCatalog.Text

/-! ## 1. Sequences -/

/-- Where a reader stands: in text, behind an escape character, behind marks after it, in a
    sequence of parameters, in the head of a device string, in a string that ends with the string
    terminator, or in one that a bell ends too. -/
inductive Region where
  | text
  | escape
  | marks
  | parameters
  | deviceHead
  | deviceParameters
  | deviceMarks
  | string
  | system
deriving DecidableEq

/-- White space of the ASCII range. -/
def isAsciiBlank (c : Char) : Bool :=
  c = ' ' || c = '\t' || c = '\n' || c = '\x0c' || c = '\r'

/-- A character from `!` to `/` or a space: a mark inside a sequence. -/
def isMark (c : Char) : Bool := 0x20 ≤ c.toNat && c.toNat ≤ 0x2F

/-- A digit, or a character from `:` to `?`: a part of a parameter. -/
def isParameter (c : Char) : Bool := 0x30 ≤ c.toNat && c.toNat ≤ 0x3F

/-- A character from `@` to `~`, which ends a sequence. -/
def isFinal (c : Char) : Bool := 0x40 ≤ c.toNat && c.toNat ≤ 0x7E

/-- The region that the character after an escape character opens. -/
def Region.ofEscape (c : Char) : Region :=
  if isMark c then .marks
  else
    match c with
    | '[' => .parameters
    | ']' => .system
    | 'P' => .deviceHead
    | 'X' | '^' | '_' => .string
    | _ => .text

/-- The region behind a visible ASCII character. -/
def Region.after (c : Char) : Region → Region
  | .text => .text
  | .escape => .ofEscape c
  | .marks => if isMark c then .marks else .text
  | .parameters => if isFinal c then .text else .parameters
  | .deviceHead =>
    if isMark c then .deviceMarks else if isParameter c then .deviceParameters else .string
  | .deviceParameters =>
    if isMark c then .deviceMarks
    else if isParameter c && c.toNat < 0x3C then .deviceParameters
    else .string
  | .deviceMarks => if isMark c then .deviceMarks else .string
  | .string => .string
  | .system => .system

/-- A control character is obeyed in the region, not taken as a part of a string. -/
def Region.obeys : Region → Bool
  | .text | .escape | .marks | .parameters => true
  | _ => false

/-- A character above the ASCII range has a byte that reads as the string terminator. -/
def endsString (c : Char) : Bool :=
  let n := c.toNat
  n % 64 = 0x1C || (0x800 ≤ n && n / 64 % 64 = 0x1C) || (0x10000 ≤ n && n / 4096 % 64 = 0x1C)

/-- The region behind a character, and whether the character is text. -/
def Region.next (r : Region) (c : Char) : Region × Bool :=
  let n := c.toNat
  if n = 0x1B then (.escape, false)
  else if n = 0x18 || n = 0x1A then (.text, false)
  else if n = 0x07 && r = .system then (.text, false)
  else if n < 0x20 then (r, r.obeys && isAsciiBlank c)
  else if n < 0x7F then (r.after c, r = .text)
  else if n = 0x7F then (r, false)
  else if r = .string && endsString c then (.text, false)
  else (r, r = .text)

/-! ## 2. Leaving them out -/

/-- The text left when the reader stands in a region; `shown` says that what it reads is text until
    the next control character, wherever the sequence before it ended. -/
def withoutControlsFrom : (r : Region) → (shown : Bool) → List Char → List Char
  | _, _, [] => []
  | r, true, c :: cs =>
    if (Region.text.next c).2 then
      c :: withoutControlsFrom (if c.toNat < 0x80 then r else .text) true cs
    else withoutControlsFrom (r.next c).1 false cs
  | r, false, c :: cs =>
    let (after, isText) := r.next c
    if isText then c :: withoutControlsFrom after true cs else withoutControlsFrom after false cs

/-- The text without its control sequences. -/
def withoutControls (s : String) : String :=
  String.ofList (withoutControlsFrom .text false s.toList)

end RadarCatalog.Text
