import RadarCatalog.Json.Value
import RadarCatalog.Text.Hex

/-!
# Printing JSON values

* `Value.compact` prints without white space, `Value.pretty` with one item or member a line and a
  given indentation; an empty list or object is two characters in both.
* A string is printed with escapes for the quote, the backslash and the characters below the space
  only.
* `asciiOnly` makes a printed text ASCII: every other character becomes the escapes of its UTF-16
  units. It needs no knowledge of the text, because a printed text has such characters in strings
  only, and there they stand for themselves.
-/

namespace RadarCatalog.Json

open RadarCatalog.Text

/-! ## 1. Strings and scalars -/

/-- A character as a printed string holds it. -/
def escapeChar (c : Char) : List Char :=
  if c = '"' then ['\\', '"']
  else if c = '\\' then ['\\', '\\']
  else if c = '\x08' then ['\\', 'b']
  else if c = '\x0c' then ['\\', 'f']
  else if c = '\n' then ['\\', 'n']
  else if c = '\r' then ['\\', 'r']
  else if c = '\t' then ['\\', 't']
  else if c.toNat < 0x20 then '\\' :: 'u' :: hexFour c.toNat
  else [c]

/-- A string between quotes. -/
def printString (s : String) : List Char := '"' :: s.toList.flatMap escapeChar ++ ['"']

/-- The text of a scalar. -/
def Scalar.print : Scalar → List Char
  | .null => ['n', 'u', 'l', 'l']
  | .bool true => ['t', 'r', 'u', 'e']
  | .bool false => ['f', 'a', 'l', 's', 'e']
  | .number n => n.text
  | .string s => printString s

/-! ## 2. Compact -/

mutual

/-- The text of a value without white space. -/
def Value.compact : Value → List Char
  | .scalar s => s.print
  | .list [] => ['[', ']']
  | .list (v :: vs) => '[' :: v.compact ++ compactItems vs ++ [']']
  | .object [] => ['{', '}']
  | .object ((k, v) :: fs) =>
    '{' :: printString k ++ ':' :: v.compact ++ compactMembers fs ++ ['}']

/-- Items after the first. -/
def compactItems : List Value → List Char
  | [] => []
  | v :: vs => ',' :: v.compact ++ compactItems vs

/-- Members after the first. -/
def compactMembers : List (String × Value) → List Char
  | [] => []
  | (k, v) :: fs => ',' :: printString k ++ ':' :: v.compact ++ compactMembers fs

end

/-! ## 3. Pretty -/

/-- A line break and the indentation of a level. -/
def newLine (indent level : Nat) : List Char := '\n' :: List.replicate (indent * level) ' '

mutual

/-- The text of a value at a level, one item or member a line. -/
def Value.prettyAt (indent level : Nat) : Value → List Char
  | .scalar s => s.print
  | .list [] => ['[', ']']
  | .list (v :: vs) =>
    '[' :: newLine indent (level + 1) ++ v.prettyAt indent (level + 1) ++
      prettyItems indent (level + 1) vs ++ newLine indent level ++ [']']
  | .object [] => ['{', '}']
  | .object ((k, v) :: fs) =>
    '{' :: newLine indent (level + 1) ++ printString k ++ ':' :: ' ' ::
      v.prettyAt indent (level + 1) ++ prettyMembers indent (level + 1) fs ++
      newLine indent level ++ ['}']

/-- Items after the first. -/
def prettyItems (indent level : Nat) : List Value → List Char
  | [] => []
  | v :: vs =>
    ',' :: newLine indent level ++ v.prettyAt indent level ++ prettyItems indent level vs

/-- Members after the first. -/
def prettyMembers (indent level : Nat) : List (String × Value) → List Char
  | [] => []
  | (k, v) :: fs =>
    ',' :: newLine indent level ++ printString k ++ ':' :: ' ' :: v.prettyAt indent level ++
      prettyMembers indent level fs

end

/-- The text of a value, one item or member a line. -/
def Value.pretty (indent : Nat) (v : Value) : List Char := v.prettyAt indent 0

/-! ## 4. ASCII only -/

/-- The UTF-16 units of a character: one, or the two of a surrogate pair. -/
def units16 (c : Char) : List Nat :=
  if c.toNat < 0x10000 then [c.toNat]
  else
    let offset := c.toNat - 0x10000
    [0xD800 + offset / 0x400, 0xDC00 + offset % 0x400]

/-- The character has a code below 128. -/
def isAscii (c : Char) : Bool := c.toNat < 128

/-- The escape of a UTF-16 unit. -/
def unitEscape (u : Nat) : List Char := '\\' :: 'u' :: hexFour u

/-- A printed text with every character beyond ASCII written as the escapes of its units. -/
def asciiOnly (cs : List Char) : List Char :=
  cs.flatMap fun c => if isAscii c then [c] else (units16 c).flatMap unitEscape

end RadarCatalog.Json
