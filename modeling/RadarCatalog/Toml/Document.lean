import RadarCatalog.Toml.Moment
import RadarCatalog.Toml.Node

/-!
# Reading TOML documents

`read` takes a text of TOML 1.0 apart into statements and builds their tree. It answers `none` for
a text that is no document, whatever is wrong with it.
-/

namespace RadarCatalog.Toml

/-! ## 1. Values -/

/-- A number or a date. -/
def numberValue (cs : List Char) : Option (Node × List Char) :=
  match moment cs with
  | some (m, cs) => some (.moment (String.ofList m.text), cs)
  | none =>
    match cs with
    | '0' :: 'x' :: cs => (basedInteger 16 cs).map fun (z, cs) => (.integer z, cs)
    | '0' :: 'o' :: cs => (basedInteger 8 cs).map fun (z, cs) => (.integer z, cs)
    | '0' :: 'b' :: cs => (basedInteger 2 cs).map fun (z, cs) => (.integer z, cs)
    | cs =>
      let (negative, unsigned) := takeSign cs
      match wholePart unsigned with
      | none => (specialFloat? cs).map fun cs => (.other, cs)
      | some (ds, rest) =>
        match floatTail rest with
        | some ((fraction, z), rest) =>
          (finiteOrBelow ⟨negative, ds, fraction, z⟩).map fun _ => (.other, rest)
        | none =>
          let n : Int := Numeric.ofDigits ds
          (inRange (if negative then -n else n)).map fun z => (.integer z, rest)

/-- A value without parts. -/
def scalarValue (cs : List Char) : Option (Node × List Char) :=
  match cs with
  | '"' :: _ | '\'' :: _ => (stringValue cs).map fun (s, cs) => (.string s, cs)
  | 't' :: _ => (word? ['t', 'r', 'u', 'e'] cs).map fun cs => (.other, cs)
  | 'f' :: _ => (word? ['f', 'a', 'l', 's', 'e'] cs).map fun cs => (.other, cs)
  | 'i' :: _ | 'n' :: _ => (specialFloat? cs).map fun cs => (.other, cs)
  | cs => numberValue cs

mutual

/-- A value; `depth` counts the containers it stands in. The bound counts steps. -/
def value : Nat → (depth : Nat) → Scanner Node
  | 0, _, _ => none
  | bound + 1, depth, cs =>
    match cs with
    | '[' :: cs =>
      if maxDepth ≤ depth then none
      else (arrayItems bound (depth + 1) [] cs).map fun (items, cs) => (.array items, cs)
    | '{' :: cs =>
      if maxDepth ≤ depth then none
      else
        match skipSpace cs with
        | '}' :: cs => some (.table .inline [], cs)
        | cs =>
          (inlineEntries bound (depth + 1) [] cs).bind fun (entries, cs) =>
            (inlineTable entries).map fun node => (node, cs)
    | cs => scalarValue cs

/-- The rest of an array after its bracket or a comma. -/
def arrayItems : Nat → (depth : Nat) → List Node → Scanner (List Node)
  | 0, _, _, _ => none
  | bound + 1, depth, items, cs =>
    match skipLines cs.length cs with
    | none => none
    | some (']' :: cs) => some (items.reverse, cs)
    | some cs =>
      match value bound depth cs with
      | none => none
      | some (item, cs) =>
        match skipLines cs.length cs with
        | some (',' :: cs) => arrayItems bound depth (item :: items) cs
        | some (']' :: cs) => some ((item :: items).reverse, cs)
        | _ => none

/-- The rest of an inline table after its brace or a comma, with at least one entry. -/
def inlineEntries : Nat → (depth : Nat) → List (List String × String × Node) →
    Scanner (List (List String × String × Node))
  | 0, _, _, _ => none
  | bound + 1, depth, entries, cs =>
    match dottedKey cs with
    | some ((path, key), '=' :: cs) =>
      match value bound depth (skipSpace cs) with
      | none => none
      | some (node, cs) =>
        match skipSpace cs with
        | ',' :: cs => inlineEntries bound depth ((path, key, node) :: entries) cs
        | '}' :: cs => some (((path, key, node) :: entries).reverse, cs)
        | _ => none
    | _ => none

end

/-! ## 2. Statements -/

/-- A key with its value, to the end of the line. -/
def assignment (cs : List Char) : Option (Statement × List Char) :=
  match dottedKey cs with
  | some ((path, key), '=' :: cs) =>
    match value (cs.length + 1) 0 (skipSpace cs) with
    | none => none
    | some (node, cs) => (endOfLine? cs).map fun cs => (.assign path key node, cs)
  | _ => none

/-- A statement that starts with a key or a bracket. -/
def statement (cs : List Char) : Option (Statement × List Char) :=
  match cs with
  | '[' :: '[' :: cs =>
    match dottedKey cs with
    | some ((path, key), ']' :: ']' :: cs) =>
      (endOfLine? cs).map fun cs => (.openItem path key, cs)
    | _ => none
  | '[' :: cs =>
    match dottedKey cs with
    | some ((path, key), ']' :: cs) => (endOfLine? cs).map fun cs => (.openTable path key, cs)
    | _ => none
  | cs => assignment cs

/-- The statements of a text. The bound counts lines. -/
def statements : Nat → List Statement → List Char → Option (List Statement)
  | 0, _, _ => none
  | bound + 1, done, cs =>
    match skipSpace cs with
    | [] => some done.reverse
    | '#' :: cs => (endOfLine? ('#' :: cs)).bind (statements bound done)
    | cs =>
      match newline? cs with
      | some cs => statements bound done cs
      | none =>
        match statement cs with
        | none => none
        | some (s, cs) => statements bound (s :: done) cs

/-- The tree of a text; a byte order mark in front is allowed. -/
def read (text : String) : Option Entries :=
  let cs := match text.toList with
    | [] => []
    | c :: cs => if c.toNat = 0xFEFF then cs else c :: cs
  (statements (cs.length + 1) [] cs).bind build

end RadarCatalog.Toml
