import RadarCatalog.Numeric.Numeral
import RadarCatalog.Text.Hex

/-!
# Pieces of a TOML text

Each scanner takes a piece from the front of a text and gives what it stands for and the rest;
`none` is a text without such a piece in front.
-/

namespace RadarCatalog.Toml

open RadarCatalog.Numeric RadarCatalog.Text

/-- A scanner of pieces that stand for values of a type. -/
abbrev Scanner (α : Type) := List Char → Option (α × List Char)

/-! ## 1. Blanks, comments and line ends -/

/-- A space or a tab. -/
def isSpace (c : Char) : Bool := c = ' ' || c = '\t'

/-- The text after spaces and tabs. -/
def skipSpace (cs : List Char) : List Char := cs.dropWhile isSpace

/-- A character of a comment or of a literal string: the tab, and all but control characters. -/
def isPlain (c : Char) : Bool := c = '\t' || (0x20 ≤ c.toNat && c.toNat ≠ 0x7F)

/-- The text after a line end, where one is in front. -/
def newline? : List Char → Option (List Char)
  | '\n' :: cs => some cs
  | '\r' :: '\n' :: cs => some cs
  | _ => none

/-- The text after a comment, if one is in front. -/
def skipComment : List Char → List Char
  | '#' :: cs => cs.dropWhile isPlain
  | cs => cs

/-- The text after the rest of a line: spaces, a comment, and a line end or the end of the text. -/
def endOfLine? (cs : List Char) : Option (List Char) :=
  match skipComment (skipSpace cs) with
  | [] => some []
  | cs => newline? cs

/-- The text after spaces, comments and line ends; `none` where a comment is not ended by a line
    end. The bound counts lines. -/
def skipLines : Nat → List Char → Option (List Char)
  | 0, cs => some (skipSpace cs)
  | bound + 1, cs =>
    match skipSpace cs with
    | '#' :: cs => (newline? (cs.dropWhile isPlain)).bind (skipLines bound)
    | cs =>
      match newline? cs with
      | some cs => skipLines bound cs
      | none => some cs

/-! ## 2. Strings -/

/-- The character of an escape with this many hexadecimal digits, and the text after it. -/
def codeEscape (count : Nat) : Scanner Char := fun cs =>
  let ds := cs.take count
  match ds.mapM hexValue? with
  | none => none
  | some values =>
    let code := values.foldl (fun n d => 16 * n + d) 0
    if ds.length = count && (code < 0xD800 || (0xE000 ≤ code && code < 0x110000)) then
      some (Char.ofNat code, cs.drop count)
    else none

/-- The character after a backslash, and the text after it. -/
def escape : Scanner Char
  | '"' :: cs => some ('"', cs)
  | '\\' :: cs => some ('\\', cs)
  | 'b' :: cs => some ('\x08', cs)
  | 'f' :: cs => some ('\x0c', cs)
  | 'n' :: cs => some ('\n', cs)
  | 'r' :: cs => some ('\r', cs)
  | 't' :: cs => some ('\t', cs)
  | 'u' :: cs => codeEscape 4 cs
  | 'U' :: cs => codeEscape 8 cs
  | _ => none

/-- The rest of a basic string of one line. The bound counts characters. -/
def basicBody : Nat → List Char → Scanner String
  | 0, _, _ => none
  | bound + 1, text, cs =>
    match cs with
    | [] => none
    | '"' :: cs => some (String.ofList text.reverse, cs)
    | '\\' :: cs => (escape cs).bind fun (c, cs) => basicBody bound (c :: text) cs
    | c :: cs => if isPlain c then basicBody bound (c :: text) cs else none

/-- The rest of a literal string of one line. -/
def literalBody (cs : List Char) : Option (String × List Char) :=
  match cs.span fun c => isPlain c && c ≠ '\'' with
  | (text, '\'' :: cs) => some (String.ofList text, cs)
  | _ => none

/-- The end of a string of several lines: three quotes, of which up to two more in front belong to
    the text. Gives how many do, and the text after the string. -/
def closing (quote : Char) (cs : List Char) : Option (Nat × List Char) :=
  let run := (cs.takeWhile (· = quote)).length
  if run < 3 then none
  else
    let own := min (run - 3) 2
    some (own, cs.drop (own + 3))

/-- The text after a backslash at the end of a line: the blanks and line ends that follow it, among
    them at least one line end. -/
def skipFold (bound : Nat) (cs : List Char) : Option (List Char) :=
  let rec go : Nat → List Char → List Char
    | 0, cs => cs
    | bound + 1, cs =>
      match newline? (skipSpace cs) with
      | some cs => go bound cs
      | none => skipSpace cs
  (newline? (skipSpace cs)).map (go bound)

/-- The rest of a basic string of several lines. A line end is a line feed. -/
def basicLines : Nat → List Char → Scanner String
  | 0, _, _ => none
  | bound + 1, text, cs =>
    match closing '"' cs with
    | some (own, cs) => some (String.ofList ((List.replicate own '"' ++ text).reverse), cs)
    | none =>
      match newline? cs with
      | some cs => basicLines bound ('\n' :: text) cs
      | none =>
        match cs with
        | [] => none
        | '\\' :: cs =>
          match escape cs with
          | some (c, cs) => basicLines bound (c :: text) cs
          | none => (skipFold bound cs).bind (basicLines bound text)
        | c :: cs => if isPlain c then basicLines bound (c :: text) cs else none

/-- The rest of a literal string of several lines. A line end is a line feed. -/
def literalLines : Nat → List Char → Scanner String
  | 0, _, _ => none
  | bound + 1, text, cs =>
    match closing '\'' cs with
    | some (own, cs) => some (String.ofList ((List.replicate own '\'' ++ text).reverse), cs)
    | none =>
      match newline? cs with
      | some cs => literalLines bound ('\n' :: text) cs
      | none =>
        match cs with
        | [] => none
        | c :: cs => if isPlain c then literalLines bound (c :: text) cs else none

/-- The text without a line end in front. -/
def dropNewline (cs : List Char) : List Char := (newline? cs).getD cs

/-- A string of one line. -/
def lineString : Scanner String
  | '"' :: cs => basicBody (cs.length + 1) [] cs
  | '\'' :: cs => literalBody cs
  | _ => none

/-- A string of any of the four kinds. -/
def stringValue : Scanner String
  | '"' :: '"' :: '"' :: cs => basicLines (cs.length + 1) [] (dropNewline cs)
  | '\'' :: '\'' :: '\'' :: cs => literalLines (cs.length + 1) [] (dropNewline cs)
  | cs => lineString cs

/-! ## 3. Keys -/

/-- A character of a bare key. -/
def isBare (c : Char) : Bool :=
  isDigit c || (97 ≤ c.toNat && c.toNat ≤ 122) || (65 ≤ c.toNat && c.toNat ≤ 90) || c = '_' ||
    c = '-'

/-- A key: bare, or a string of one line. -/
def simpleKey (cs : List Char) : Option (String × List Char) :=
  match cs.span isBare with
  | ([], cs) => lineString cs
  | (key, cs) => some (String.ofList key, cs)

/-- Keys with dots between them, spaces around each, up to a number of them: all but the last, and
    the last. -/
def keysUpTo : Nat → Scanner (List String × String)
  | 0, _ => none
  | most + 1, cs =>
    match simpleKey (skipSpace cs) with
    | none => none
    | some (key, cs) =>
      match skipSpace cs with
      | '.' :: cs => (keysUpTo most cs).map fun ((path, last), cs) => ((key :: path, last), cs)
      | cs => some (([], key), cs)

/-- How deep values may be nested, and how many keys may have dots between them. -/
def maxDepth : Nat := 79

/-- A key with dots in it. -/
def dottedKey : Scanner (List String × String) := keysUpTo maxDepth

/-! ## 4. Numbers and words -/

/-- Digits of a class, single underscores between them allowed. -/
def digitRun (isMember : Char → Bool) : List Char → List Char × List Char
  | [] => ([], [])
  | '_' :: c :: cs =>
    if isMember c then
      let (ds, rest) := digitRun isMember cs
      (c :: ds, rest)
    else ([], '_' :: c :: cs)
  | c :: cs =>
    if isMember c then
      let (ds, rest) := digitRun isMember cs
      (c :: ds, rest)
    else ([], c :: cs)

/-- A run of digits that starts with a digit. -/
def digitsOf (isMember : Char → Bool) : Scanner (List Char)
  | [] => none
  | c :: cs => if isMember c then some (digitRun isMember (c :: cs)) else none

/-- An integer in the range of 64 bits with a sign. -/
def inRange (z : Int) : Option Int :=
  if -0x8000000000000000 ≤ z ∧ z < 0x8000000000000000 then some z else none

/-- The digits after a base mark, as an integer. -/
def basedInteger (base : Nat) : Scanner Int := fun cs =>
  let isMember (c : Char) := match hexValue? c with
    | some d => d < base
    | none => false
  match digitsOf isMember cs with
  | none => none
  | some (ds, rest) =>
    (inRange (ds.foldl (fun n c => base * n + ((hexValue? c).getD 0 : Nat)) (0 : Nat))).map
      fun z => (z, rest)

/-- A sign in front, and whether it is a minus. -/
def takeSign : List Char → Bool × List Char
  | '-' :: cs => (true, cs)
  | '+' :: cs => (false, cs)
  | cs => (false, cs)

/-- The digits before a point: a zero alone, or digits that start with another one. -/
def wholePart : Scanner (List Char)
  | '0' :: cs => some (['0'], cs)
  | cs => digitsOf isDigit cs

/-- The digits of a fraction. -/
def fraction : Scanner (List Char)
  | '.' :: cs => digitsOf isDigit cs
  | _ => none

/-- An exponent of ten. -/
def exponent : Scanner Int
  | c :: cs =>
    if c = 'e' || c = 'E' then
      let (negative, unsigned) := takeSign cs
      (digitsOf isDigit unsigned).map fun (ds, cs) =>
        (if negative then -(ofDigits ds : Int) else ofDigits ds, cs)
    else none
  | [] => none

/-- The fraction and the exponent of a float; one of them at least is wanted. -/
def floatTail (cs : List Char) : Option ((List Char × Int) × List Char) :=
  match fraction cs with
  | some (ds, cs) =>
    match exponent cs with
    | some (z, cs) => some ((ds, z), cs)
    | none => some ((ds, 0), cs)
  | none => (exponent cs).map fun (z, cs) => (([], z), cs)

/-- The float that a numeral stands for. One beyond the range is taken as the negative infinity
    below zero, and refused above it. -/
def finiteOrBelow (n : Numeral) : Option Binary64 :=
  match n.decimal.toBinary64 with
  | .infinite false => none
  | x => some x

/-- The text after a word. -/
def word? (word cs : List Char) : Option (List Char) :=
  if cs.take word.length = word then some (cs.drop word.length) else none

/-- The text after a float that is not written with digits. -/
def specialFloat? (cs : List Char) : Option (List Char) :=
  let unsigned := (takeSign cs).2
  (word? ['i', 'n', 'f'] unsigned).or (word? ['n', 'a', 'n'] unsigned)

end RadarCatalog.Toml
