import RadarCatalog.Numeric.Digits
import RadarCatalog.Pattern.Node
import RadarCatalog.Text.Blank
import RadarCatalog.Text.Hex

/-!
# Cursors in patterns

A cursor is what is left of a pattern with the place where that starts. Where a pattern is *free*,
white space and comments in it have no meaning, and most steps go over them.
-/

namespace RadarCatalog.Pattern

open RadarCatalog.Text

/-- What is left of a pattern, and the place where it starts. -/
structure Cursor where
  rest : List Char
  position : Position
deriving DecidableEq

namespace Cursor

/-- Nothing is left. -/
def isDone (u : Cursor) : Bool := u.rest.isEmpty

/-- The next character. -/
def head? (u : Cursor) : Option Char := u.rest.head?

/-- Behind the next character. -/
def next (u : Cursor) : Cursor :=
  match u.rest with
  | [] => u
  | c :: cs => ⟨cs, u.position.after c⟩

/-- The place of the next character. -/
def here (u : Cursor) : Span := ⟨u.position, u.next.position⟩

/-- From a place up to the cursor. -/
def since (first : Position) (u : Cursor) : Span := ⟨first, u.position⟩

/-- Behind some characters. -/
def advance : Nat → Cursor → Cursor
  | 0, u => u
  | n + 1, u => advance n u.next

/-- Behind a text, if it is next. -/
def over? (text : String) (u : Cursor) : Option Cursor :=
  if text.toList.isPrefixOf u.rest then some (u.advance text.length) else none

/-- Behind white space. -/
def skipBlanks (u : Cursor) : Cursor :=
  let rec go : List Char → Position → Cursor
    | [], p => ⟨[], p⟩
    | c :: cs, p => if isBlank c then go cs (p.after c) else ⟨c :: cs, p⟩
  go u.rest u.position

/-- Behind white space and comments, each to the end of its line, in a free pattern. -/
def skip (free : Bool) (u : Cursor) : Cursor :=
  let rec go : (inComment : Bool) → List Char → Position → Cursor
    | _, [], p => ⟨[], p⟩
    | true, c :: cs, p => go (c ≠ '\n') cs (p.after c)
    | false, c :: cs, p =>
      if isBlank c then go false cs (p.after c)
      else if c = '#' then go true cs (p.after c)
      else ⟨c :: cs, p⟩
  if free then go false u.rest u.position else u

/-- Behind the next character, and what has no meaning after it. -/
def step (free : Bool) (u : Cursor) : Cursor := u.next.skip free

/-- The character after the next one. In a free pattern white space and number signs between the
    two are left out, as long as something else follows. -/
def second? (free : Bool) (u : Cursor) : Option Char :=
  let behind := u.next.rest
  if free then
    let unmarked := behind.dropWhile isBlank
    let left := match unmarked with
      | '#' :: cs => cs.dropWhile isBlank
      | cs => cs
    left.head?.or behind.head?
  else behind.head?

/-- The characters of a kind that follow, and the cursor behind them. The bound counts
    characters. -/
def takeWhile (free : Bool) (isMember : Char → Bool) : Nat → Cursor → List Char × Cursor
  | 0, u => ([], u)
  | bound + 1, u =>
    match u.rest with
    | [] => ([], u)
    | c :: _ =>
      if isMember c then
        let (cs, u) := takeWhile free isMember bound (u.step free)
        (c :: cs, u)
      else ([], u)

end Cursor

/-! ## 1. Numbers and characters by their code -/

/-- One above the largest number in a pattern. -/
def countEnd : Nat := 0x100000000

/-- A decimal number, white space around it allowed. -/
def decimal (free : Bool) (u : Cursor) : Except Fault Nat × Cursor :=
  let u := u.skipBlanks
  let (ds, v) := u.takeWhile free Numeric.isDigit u.rest.length
  let span := v.since u.position
  let n := Numeric.ofDigits ds
  let result := if ds.isEmpty then .error (Fault.of .countEmpty span)
    else if countEnd ≤ n then .error (.of .decimalTooLarge span)
    else .ok n
  (result, v.skipBlanks)

/-- A hexadecimal digit. -/
def isHexDigit (c : Char) : Bool := (hexValue? c).isSome

/-- The character of a code in hexadecimal digits. -/
def characterOf? (ds : List Char) : Option Char :=
  let code := ds.foldl (fun n c => 16 * n + (hexValue? c).getD 0) 0
  if code < 0xD800 || (0xE000 ≤ code && code < 0x110000) then some (Char.ofNat code) else none

/-- A code between braces; `start` is the place of the backslash. -/
def bracedCode (free : Bool) (start : Position) (u : Cursor) :
    Except Fault (Literal × Cursor) :=
  let first := u.next.position
  let (ds, v) := (u.step free).takeWhile free isHexDigit u.rest.length
  match v.rest with
  | [] => .error (.of .escapeCut (v.since u.position))
  | c :: _ =>
    if c ≠ '}' then .error (.of .hexDigit v.here)
    else
      let w := v.step free
      if ds.isEmpty then .error (.of .hexEmpty (w.since u.position))
      else
        match characterOf? ds with
        | none => .error (.of .hexNoCharacter (v.since first))
        | some c => .ok (⟨w.since start, c, false⟩, w)

/-- This many hexadecimal digits, and the cursor at the last of them. -/
def codeDigits (free : Bool) : Nat → Cursor → Except Fault (List Char × Cursor)
  | 0, u => .ok ([], u)
  | count + 1, u =>
    match u.rest with
    | [] => .error (.of .escapeCut (.at u.position))
    | c :: _ =>
      if isHexDigit c then
        (codeDigits free count (u.step free)).map fun (cs, v) => (c :: cs, v)
      else .error (.of .hexDigit u.here)

/-- A code of a fixed number of digits; `start` is the place of the backslash. -/
def fixedCode (free : Bool) (count : Nat) (start : Position) (u : Cursor) :
    Except Fault (Literal × Cursor) := do
  let (ds, v) ← codeDigits free count u
  match characterOf? ds with
  | none => .error (.of .hexNoCharacter (v.since u.position))
  | some c => .ok (⟨v.since start, c, count = 2⟩, v)

/-- A character by its code; the cursor stands at the letter behind the backslash. -/
def codeLiteral (free : Bool) (count : Nat) (start : Position) (u : Cursor) :
    Except Fault (Literal × Cursor) :=
  let v := u.step free
  match v.rest with
  | [] => .error (.of .escapeCut (.at v.position))
  | '{' :: _ => bracedCode free start v
  | _ => fixedCode free count start v

end RadarCatalog.Pattern
