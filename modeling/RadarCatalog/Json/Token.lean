import RadarCatalog.Json.Error

/-!
# Tokens of a JSON text

The scanner is a machine that takes one character at a time; `Token.scan` is its run over a text.
A text that breaks off or breaks a rule ends in one `fault` token, and nothing is scanned after
it. Which of two mistakes is reported is left to the reader of the tokens: it raises a fault only
where it wants the token that the fault stands for.

* Numbers: an optional minus, `0` or digits that start with another digit, then optional fraction
  and exponent, both with at least one digit.
* Strings: no raw control characters; `\u` takes the next four bytes, and a unit from the high
  surrogates takes a second escape with a low one.
-/

namespace RadarCatalog.Json

open RadarCatalog.Numeric RadarCatalog.Text

/-! ## 1. Tokens and states -/

/-- A token, or the mistake that stands in its place; `quoted` marks one inside a string. -/
inductive Token where
  | scalar (s : Scalar)
  | listStart
  | listEnd
  | objectStart
  | objectEnd
  | comma
  | colon
  | fault (quoted : Bool) (error : Error)
deriving DecidableEq

/-- How far a number has been scanned: which part the last character belongs to. -/
inductive NumberPhase where
  | sign
  | zero
  | whole
  | point
  | fraction
  | mark
  | markSign
  | exponent
deriving DecidableEq

/-- Where the scanner stands. Texts under way are kept last character first; `high` is the high
    surrogate that a second escape completes, `bytes` counts the bytes taken of an escape, and
    `code` is its value as long as they are hexadecimal digits. -/
inductive Scan where
  | between
  | word (rest : List Char) (value : Scalar)
  | number (phase : NumberPhase) (text : List Char)
  | string (text : List Char)
  | escape (text : List Char)
  | unit (text : List Char) (high : Option Nat) (bytes : Nat) (code : Option Nat)
  | pairSlash (text : List Char) (high : Nat)
  | pairLetter (text : List Char) (high : Nat)
  | stopped
deriving DecidableEq

/-! ## 2. Numbers -/

/-- What the next character does to a number: goes on in a phase, breaks a rule, or is none of
    the number (`none`). -/
def NumberPhase.next (phase : NumberPhase) (c : Char) : Option (Except Error NumberPhase) :=
  let isMark := c = 'e' || c = 'E'
  match phase with
  | .sign =>
    if c = '0' then some (.ok .zero)
    else if isDigit c then some (.ok .whole)
    else some (.error .invalidNumber)
  | .zero =>
    if isDigit c then some (.error .invalidNumber)
    else if c = '.' then some (.ok .point)
    else if isMark then some (.ok .mark)
    else none
  | .whole =>
    if isDigit c then some (.ok .whole)
    else if c = '.' then some (.ok .point)
    else if isMark then some (.ok .mark)
    else none
  | .point => if isDigit c then some (.ok .fraction) else some (.error .invalidNumber)
  | .fraction =>
    if isDigit c then some (.ok .fraction)
    else if isMark then some (.ok .mark)
    else none
  | .mark =>
    if c = '+' || c = '-' then some (.ok .markSign)
    else if isDigit c then some (.ok .exponent)
    else some (.error .invalidNumber)
  | .markSign => if isDigit c then some (.ok .exponent) else some (.error .invalidNumber)
  | .exponent => if isDigit c then some (.ok .exponent) else none

/-- A number may end in this phase. -/
def NumberPhase.complete : NumberPhase → Bool
  | .zero | .whole | .fraction | .exponent => true
  | _ => false

/-- The number that a scanned text stands for. -/
def Number.ofText? (cs : List Char) : Option Number :=
  let integral := cs.all fun c => isDigit c || c = '-'
  (Numeral.scan? cs).bind (Number.ofNumeral? integral)

/-- The token of a scanned number, kept last character first. -/
def numberToken (text : List Char) : Token :=
  match Number.ofText? text.reverse with
  | some n => .scalar (.number n)
  | none => .fault false .numberOutOfRange

/-! ## 3. The machine -/

/-- The character after a backslash, save `u`. -/
def escaped? : Char → Option Char
  | '"' => some '"'
  | '\\' => some '\\'
  | '/' => some '/'
  | 'b' => some '\x08'
  | 'f' => some '\x0c'
  | 'n' => some '\n'
  | 'r' => some '\r'
  | 't' => some '\t'
  | _ => none

/-- A low surrogate: the second unit of a pair. -/
def isLowSurrogate (n : Nat) : Bool := 0xDC00 ≤ n && n ≤ 0xDFFF

/-- A high surrogate: the first unit of a pair. -/
def isHighSurrogate (n : Nat) : Bool := 0xD800 ≤ n && n ≤ 0xDBFF

/-- The character of a surrogate pair. -/
def joinPair (high low : Nat) : Char :=
  Char.ofNat (0x10000 + (high - 0xD800) * 0x400 + (low - 0xDC00))

/-- Stops at a mistake inside a string. -/
def stringFault (e : Error) : List Token × Scan := ([.fault true e], .stopped)

/-- What a complete escape of a unit does. -/
def Scan.afterUnit (text : List Char) (high : Option Nat) (code : Nat) : List Token × Scan :=
  match high with
  | none =>
    if isLowSurrogate code then stringFault .loneSurrogate
    else if isHighSurrogate code then ([], .pairSlash text code)
    else ([], .string (Char.ofNat code :: text))
  | some h =>
    if isLowSurrogate code then ([], .string (joinPair h code :: text))
    else stringFault .loneSurrogate

/-- One character between tokens. -/
def Scan.start (c : Char) : List Token × Scan :=
  match c with
  | ' ' | '\n' | '\t' | '\r' => ([], .between)
  | '[' => ([.listStart], .between)
  | ']' => ([.listEnd], .between)
  | '{' => ([.objectStart], .between)
  | '}' => ([.objectEnd], .between)
  | ',' => ([.comma], .between)
  | ':' => ([.colon], .between)
  | '"' => ([], .string [])
  | 'n' => ([], .word ['u', 'l', 'l'] .null)
  | 't' => ([], .word ['r', 'u', 'e'] (.bool true))
  | 'f' => ([], .word ['a', 'l', 's', 'e'] (.bool false))
  | '-' => ([], .number .sign ['-'])
  | '0' => ([], .number .zero ['0'])
  | c =>
    if isDigit c then ([], .number .whole [c])
    else ([.fault false .valueExpected], .stopped)

/-- One character: the tokens that it completes, and where the scanner stands after it. -/
def Scan.step (scan : Scan) (c : Char) : List Token × Scan :=
  match scan with
  | .between => Scan.start c
  | .word rest value =>
    match rest with
    | r :: rest' =>
      if c = r then
        if rest'.isEmpty then ([.scalar value], .between) else ([], .word rest' value)
      else ([.fault false .wordExpected], .stopped)
    | [] => ([.fault false .wordExpected], .stopped)
  | .number phase text =>
    match phase.next c with
    | some (.ok phase') => ([], .number phase' (c :: text))
    | some (.error e) => ([.fault false e], .stopped)
    | none =>
      match numberToken text with
      | .fault quoted e => ([.fault quoted e], .stopped)
      | token => let (tokens, scan') := Scan.start c; (token :: tokens, scan')
  | .string text =>
    if c = '"' then ([.scalar (.string (String.ofList text.reverse))], .between)
    else if c = '\\' then ([], .escape text)
    else if c.toNat < 0x20 then stringFault .controlCharacter
    else ([], .string (c :: text))
  | .escape text =>
    if c = 'u' then ([], .unit text none 0 (some 0))
    else
      match escaped? c with
      | some e => ([], .string (e :: text))
      | none => stringFault .invalidEscape
  | .unit text high bytes code =>
    let bytes' := bytes + c.utf8Size
    let code' := code.bind fun n => (hexValue? c).map fun d => 16 * n + d
    if bytes' < 4 then ([], .unit text high bytes' code')
    else
      match code' with
      | some n => Scan.afterUnit text high n
      | none => stringFault .invalidEscape
  | .pairSlash text high =>
    if c = '\\' then ([], .pairLetter text high) else stringFault .escapePairExpected
  | .pairLetter text high =>
    if c = 'u' then ([], .unit text (some high) 0 (some 0)) else stringFault .escapePairExpected
  | .stopped => ([], .stopped)

/-- The tokens at the end of the text. -/
def Scan.finish : Scan → List Token
  | .between | .stopped => []
  | .word _ _ => [.fault false .endInValue]
  | .number phase text =>
    if phase.complete then [numberToken text] else [.fault false .endInValue]
  | .string _ | .escape _ | .unit _ _ _ _ | .pairSlash _ _ | .pairLetter _ _ =>
    [.fault true .endInString]

/-- One character on a scanner with its tokens so far, the last first. -/
def Scan.advance (s : List Token × Scan) (c : Char) : List Token × Scan :=
  let (tokens, scan) := s.2.step c
  (tokens.reverse ++ s.1, scan)

/-- The tokens of a text. -/
def Token.scan (cs : List Char) : List Token :=
  let (tokens, scan) := cs.foldl Scan.advance ([], .between)
  tokens.reverse ++ scan.finish

end RadarCatalog.Json
