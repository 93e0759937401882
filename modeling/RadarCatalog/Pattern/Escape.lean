import RadarCatalog.Pattern.Cursor

/-!
# Escapes

What a backslash and the characters behind it stand for: a character, a place, or a set of
characters.
-/

namespace RadarCatalog.Pattern

/-- A character that a backslash takes the meaning from: each of the ASCII range but letters,
    digits and the two angles. -/
def isPlainEscape (c : Char) : Bool :=
  let n := c.toNat
  n < 0x80 && !(Numeric.isDigit c || (0x41 ≤ n && n ≤ 0x5A) || (0x61 ≤ n && n ≤ 0x7A) ||
    c = '<' || c = '>')

/-- The control character that a letter behind a backslash stands for. -/
def controlEscape? : Char → Option Char
  | 'a' => some '\x07'
  | 'f' => some '\x0c'
  | 't' => some '\t'
  | 'n' => some '\n'
  | 'r' => some '\r'
  | 'v' => some '\x0b'
  | _ => none

/-- The place that a character behind a backslash asks for. -/
def anchorEscape? : Char → Option Anchor
  | 'A' => some .textStart
  | 'z' => some .textEnd
  | 'b' => some .boundary
  | 'B' => some .noBoundary
  | '<' => some .wordStart
  | '>' => some .wordEnd
  | _ => none

/-- The set that a letter behind a backslash names; a capital stands for its complement. -/
def classEscape? : Char → Option (Bool × ClassName)
  | 'd' => some (false, .digit)
  | 's' => some (false, .space)
  | 'w' => some (false, .word)
  | 'D' => some (true, .digit)
  | 'S' => some (true, .space)
  | 'W' => some (true, .word)
  | _ => none

/-- How many hexadecimal digits a letter behind a backslash announces. -/
def codeEscape? : Char → Option Nat
  | 'x' => some 2
  | 'u' => some 4
  | 'U' => some 8
  | _ => none

/-! ## 1. Word boundaries with a name -/

/-- A letter of a boundary's name. -/
def isBoundaryLetter (c : Char) : Bool :=
  (0x41 ≤ c.toNat && c.toNat ≤ 0x5A) || (0x61 ≤ c.toNat && c.toNat ≤ 0x7A) || c = '-'

/-- The place that a name between braces asks for. -/
def namedBoundary? (name : List Char) : Option Anchor :=
  match String.ofList name with
  | "start" => some .wordStart
  | "end" => some .wordEnd
  | "start-half" => some .wordStartHalf
  | "end-half" => some .wordEndHalf
  | _ => none

/-- The boundary of a name between braces, where the cursor stands at a brace. A brace with
    anything but a letter behind it is left for a repetition. -/
def boundaryName (free : Bool) (start : Position) (u : Cursor) :
    Except Fault (Anchor × Cursor) :=
  let first := u.step free
  match first.rest with
  | [] => .error (.of .boundaryCut (first.since start))
  | c :: _ =>
    if !isBoundaryLetter c then .ok (.boundary, u)
    else
      let (name, v) := first.takeWhile free isBoundaryLetter first.rest.length
      if v.head? ≠ some '}' then .error (.of .boundaryOpen (v.since u.position))
      else
        match namedBoundary? name with
        | some a => .ok (a, v.next)
        | none => .error (.of .boundaryUnknown (v.since first.position))

/-- The place behind `\b`. -/
def boundary (free : Bool) (start : Position) (u : Cursor) : Except Fault (Node × Cursor) := do
  if u.head? = some '{' then
    let (a, v) ← boundaryName free start u
    return (.anchor (if v = u then u.since start else v.since start) a, v)
  else return (.anchor (u.since start) .boundary, u)

/-! ## 2. Properties -/

/-- The text in front of the first place where another text stands, and the text behind it. -/
def cutAt (mark : List Char) : List Char → Option (List Char × List Char)
  | [] => none
  | c :: cs =>
    if mark.isPrefixOf (c :: cs) then some ([], (c :: cs).drop mark.length)
    else (cutAt mark cs).map fun (front, back) => (c :: front, back)

/-- The property of a text between braces. -/
def Property.ofText (cs : List Char) : Property :=
  match ((cutAt ['!', '='] cs).or (cutAt [':'] cs)).or (cutAt ['='] cs) with
  | some (name, value) => ⟨name, some value⟩
  | none => ⟨cs, none⟩

/-- A property; the cursor stands at the letter behind the backslash. -/
def propertyEscape (free : Bool) (start : Position) (u : Cursor) :
    Except Fault (Node × Cursor) :=
  let v := u.step free
  match v.rest with
  | [] => .error (.of .escapeCut (.at v.position))
  | '{' :: _ =>
    let (name, w) := (v.step free).takeWhile free (· ≠ '}') v.rest.length
    if w.isDone then .error (.of .escapeCut (.at w.position))
    else
      let w := w.next
      .ok (.property (w.since start) (.ofText name), w)
  | c :: _ =>
    if c = '\\' then .error (.of .propertyEscape v.here)
    else
      let w := v.step free
      .ok (.property (w.since start) ⟨[c], none⟩, w)

/-! ## 3. Any escape -/

/-- An escape; the cursor stands at the backslash. -/
def escape (free : Bool) (u : Cursor) : Except Fault (Node × Cursor) :=
  let start := u.position
  let v := u.next
  match v.rest with
  | [] => .error (.of .escapeCut (v.since start))
  | c :: _ =>
    let w := v.next
    let span := w.since start
    if Numeric.isDigit c then .error (.of .backreference span)
    else if c = 'p' || c = 'P' then propertyEscape free start v
    else if c = 'b' then boundary free start w
    else
      match codeEscape? c, classEscape? c, anchorEscape? c, controlEscape? c with
      | some count, _, _, _ => (codeLiteral free count start v).map fun (l, x) => (.literal l, x)
      | _, some (negated, name), _, _ => .ok (.named span negated name, w)
      | _, _, some a, _ => .ok (.anchor span a, w)
      | _, _, _, some control => .ok (.literal ⟨span, control, false⟩, w)
      | _, _, _, _ =>
        if isPlainEscape c then .ok (.literal ⟨span, c, false⟩, w)
        else .error (.of .escapeUnknown span)

end RadarCatalog.Pattern
