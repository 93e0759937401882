import RadarCatalog.Numeric.Digits
import RadarCatalog.Text.Lines

/-!
# Faults of patterns

A pattern that cannot be read is shown with marks under the part at fault, and a line that says
what is wrong with it. A pattern of several lines is shown between two rules, each line with its
number.
-/

namespace RadarCatalog

namespace Pattern

open RadarCatalog.Text

/-! ## 1. Places -/

/-- A place in a text: the number of its line and of its column, from one. -/
structure Position where
  line : Nat
  column : Nat
deriving DecidableEq, Inhabited

/-- The place at the start. -/
def Position.start : Position := ⟨1, 1⟩

/-- The place behind a character. -/
def Position.after (p : Position) (c : Char) : Position :=
  if c = '\n' then ⟨p.line + 1, 1⟩ else ⟨p.line, p.column + 1⟩

/-- The part of a text from one place up to another. -/
structure Span where
  first : Position
  last : Position
deriving DecidableEq, Inhabited

/-- The empty part at a place. -/
def Span.at (p : Position) : Span := ⟨p, p⟩

/-- The part lies in one line. -/
def Span.isOneLine (s : Span) : Bool := s.first.line = s.last.line

/-- The part starts before another one, or with it and ends no later. -/
def Span.precedes (s t : Span) : Bool :=
  let key (p q : Position) : Ordering := (compare p.line q.line).then (compare p.column q.column)
  ((key s.first t.first).then (key s.last t.last)) ≠ .gt

/-! ## 2. Kinds of faults -/

/-- How deep the parts of a pattern may be nested. -/
def maxNesting : Nat := 250

/-- What can be wrong with a pattern. The last ones are about meaning: no tables of properties, of
    word characters or of letter cases are at hand beyond the ASCII range. -/
inductive Mistake where
  | setEscape
  | setRange
  | setBoundary
  | setOpen
  | decimalTooLarge
  | hexEmpty
  | hexNoCharacter
  | hexDigit
  | escapeCut
  | escapeUnknown
  | flagDangling
  | flagRepeated
  | flagNegatedTwice
  | flagCut
  | flagUnknown
  | nameRepeated
  | nameEmpty
  | nameCharacter
  | nameCut
  | groupOpen
  | groupNotOpen
  | nesting
  | countOrder
  | countEmpty
  | countOpen
  | nothingToRepeat
  | boundaryOpen
  | boundaryUnknown
  | boundaryCut
  | propertyEscape
  | backreference
  | lookAround
  | onlyBytes
  | onlyCharacters
  | propertyUnknown
  | propertyValueUnknown
  | noClassTable
  | noCaseTable
deriving DecidableEq

/-- The wording of a fault. -/
def Mistake.message : Mistake → String
  | .setEscape => "invalid escape sequence found in character class"
  | .setRange => "invalid character class range, the start must be <= the end"
  | .setBoundary => "invalid range boundary, must be a literal"
  | .setOpen => "unclosed character class"
  | .decimalTooLarge => "decimal literal invalid"
  | .hexEmpty => "hexadecimal literal empty"
  | .hexNoCharacter => "hexadecimal literal is not a Unicode scalar value"
  | .hexDigit => "invalid hexadecimal digit"
  | .escapeCut => "incomplete escape sequence, reached end of pattern prematurely"
  | .escapeUnknown => "unrecognized escape sequence"
  | .flagDangling => "dangling flag negation operator"
  | .flagRepeated => "duplicate flag"
  | .flagNegatedTwice => "flag negation operator repeated"
  | .flagCut => "expected flag but got end of regex"
  | .flagUnknown => "unrecognized flag"
  | .nameRepeated => "duplicate capture group name"
  | .nameEmpty => "empty capture group name"
  | .nameCharacter => "invalid capture group character"
  | .nameCut => "unclosed capture group name"
  | .groupOpen => "unclosed group"
  | .groupNotOpen => "unopened group"
  | .nesting => "exceed the maximum number of nested parentheses/brackets (250)"
  | .countOrder => "invalid repetition count range, the start must be <= the end"
  | .countEmpty => "repetition quantifier expects a valid decimal"
  | .countOpen => "unclosed counted repetition"
  | .nothingToRepeat => "repetition operator missing expression"
  | .boundaryOpen =>
    "special word boundary assertion is either unclosed or contains an invalid character"
  | .boundaryUnknown =>
    "unrecognized special word boundary assertion, valid choices are: " ++
      "start, end, start-half or end-half"
  | .boundaryCut =>
    "found either the beginning of a special word boundary or a bounded repetition on a \\b " ++
      "with an opening brace, but no closing brace"
  | .propertyEscape => "invalid Unicode character class"
  | .backreference => "backreferences are not supported"
  | .lookAround => "look-around, including look-ahead and look-behind, is not supported"
  | .onlyBytes => "pattern can match invalid UTF-8"
  | .onlyCharacters => "Unicode not allowed here"
  | .propertyUnknown => "Unicode property not found"
  | .propertyValueUnknown => "Unicode property value not found"
  | .noClassTable =>
    "Unicode-aware Perl class not found (make sure the unicode-perl feature is enabled)"
  | .noCaseTable =>
    "Unicode-aware case insensitivity matching is not available " ++
      "(make sure the unicode-case feature is enabled)"

/-- A fault, the part at fault, and an earlier part that it clashes with, if any. -/
structure Fault where
  mistake : Mistake
  span : Span
  earlier : Option Span
deriving DecidableEq

/-- A fault of a part alone. -/
def Fault.of (mistake : Mistake) (span : Span) : Fault := ⟨mistake, span, none⟩

/-! ## 3. Showing a fault -/

/-- How many lines a place in the text can be in. -/
def lineCount (cs : List Char) : Nat :=
  (linesOf cs).length + if cs.getLast? = some '\n' then 1 else 0

/-- The width of line numbers; a text of one line has none. -/
def numberWidth (cs : List Char) : Nat :=
  if lineCount cs ≤ 1 then 0 else Numeric.width (lineCount cs)

/-- The marks under a line, from a column on: one at least for each part. -/
def marksFrom : (column : Nat) → List Span → List Char
  | _, [] => []
  | column, s :: rest =>
    let count := max 1 (s.last.column - s.first.column)
    List.replicate (s.first.column - column) ' ' ++ List.replicate count '^' ++
      marksFrom (max column s.first.column + count) rest

/-- The parts that a fault shows, in order. -/
def Fault.spans (f : Fault) : List Span :=
  match f.earlier with
  | none => [f.span]
  | some e => if e.precedes f.span then [e, f.span] else [f.span, e]

/-- A line with its number, and the marks under it. -/
def notedLine (width : Nat) (spans : List Span) (number : Nat) (line : List Char) : List Char :=
  let ds := Numeric.digits number
  let front := if width = 0 then "    ".toList
    else List.replicate (width - ds.length) ' ' ++ ds ++ [':', ' ']
  let marked := spans.filter fun s => s.isOneLine && s.first.line = number
  let marks := if marked.isEmpty then []
    else List.replicate front.length ' ' ++ marksFrom 1 marked ++ ['\n']
  front ++ line ++ '\n' :: marks

/-- The text with its marks. -/
def Fault.notes (f : Fault) (cs : List Char) : List Char :=
  ((linesOf cs).zipIdx 1).flatMap fun (line, number) =>
    notedLine (numberWidth cs) f.spans number line

/-- Where a part of several lines lies. -/
def Span.lineRange (s : Span) : List Char :=
  "on line ".toList ++ Numeric.digits s.first.line ++ " (column ".toList ++
    Numeric.digits s.first.column ++ ") through line ".toList ++ Numeric.digits s.last.line ++
    " (column ".toList ++ Numeric.digits (s.last.column - 1) ++ [')', '\n']

/-- The report on a fault in a text. -/
def Fault.report (f : Fault) (cs : List Char) : String :=
  let rule := if cs.contains '\n' then List.replicate 79 '~' ++ ['\n'] else []
  let ranges := if cs.contains '\n' then
      (f.spans.filter fun s => !s.isOneLine).flatMap Span.lineRange
    else []
  "regex parse error:\n" ++ String.ofList (rule ++ f.notes cs ++ rule ++ ranges) ++ "error: " ++
    f.mistake.message

end Pattern

end RadarCatalog
