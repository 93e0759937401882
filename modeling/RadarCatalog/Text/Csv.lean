/-!
# Comma-separated rows

A machine that takes one character at a time. A row ends at a line feed or a carriage return, so
the two together end one row, and lines with nothing on them are no rows. A quote opens a quoted
field only as the first character of the field; inside it a doubled quote is a quote, and what
follows the closing quote is appended as it stands. An open quote runs to the end of the text.
Nothing is trimmed, and no text is an error.
-/

namespace RadarCatalog.Csv

/-- Where the machine stands in a row. -/
inductive Phase where
  | rowStart
  | fieldStart
  | bare
  | quoted
  | quoteSeen
deriving DecidableEq

/-- The rows so far, the row and the field under way; rows, fields and characters last first. -/
structure Reader where
  phase : Phase
  field : List Char
  row : List String
  rows : List (List String)

namespace Reader

/-- At the start of a text. -/
def start : Reader := ⟨.rowStart, [], [], []⟩

/-- Adds a character to the field. -/
def keep (r : Reader) (phase : Phase) (c : Char) : Reader :=
  { r with phase := phase, field := c :: r.field }

/-- Ends the field. -/
def endField (r : Reader) : Reader :=
  { r with
    phase := .fieldStart, field := [], row := String.ofList r.field.reverse :: r.row }

/-- Ends the field and the row. -/
def endRow (r : Reader) : Reader :=
  let ended := r.endField
  { ended with phase := .rowStart, row := [], rows := ended.row.reverse :: r.rows }

/-- A character that ends a row. -/
def isRowEnd (c : Char) : Bool := c = '\n' || c = '\r'

/-- A character outside quotes; `otherwise` takes one without a meaning of its own. -/
def outside (r : Reader) (c : Char) (otherwise : Reader) : Reader :=
  if c = ',' then r.endField else if isRowEnd c then r.endRow else otherwise

/-- The first character of a field. -/
def fieldStart (r : Reader) (c : Char) : Reader :=
  if c = '"' then { r with phase := .quoted } else r.outside c (r.keep .bare c)

/-- One character. -/
def step (r : Reader) (c : Char) : Reader :=
  match r.phase with
  | .rowStart => if isRowEnd c then r else r.fieldStart c
  | .fieldStart => r.fieldStart c
  | .bare => r.outside c (r.keep .bare c)
  | .quoted => if c = '"' then { r with phase := .quoteSeen } else r.keep .quoted c
  | .quoteSeen => if c = '"' then r.keep .quoted c else r.outside c (r.keep .bare c)

/-- The rows at the end of the text. -/
def finish (r : Reader) : List (List String) :=
  match r.phase with
  | .rowStart => r.rows.reverse
  | _ => r.endRow.rows.reverse

end Reader

/-- The text without a byte order mark in front. -/
def dropMark : List Char → List Char
  | [] => []
  | c :: cs => if c.toNat = 0xFEFF then cs else c :: cs

/-- The rows of a text. -/
def rows (text : String) : List (List String) :=
  ((dropMark text.toList).foldl Reader.step Reader.start).finish

end RadarCatalog.Csv
