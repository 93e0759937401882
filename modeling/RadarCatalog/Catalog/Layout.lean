import RadarCatalog.Catalog.Basic
import RadarCatalog.Json.Printer

/-!
# Layouts of a catalog text

* **Aligned**: one record a line. The values of a key are padded to the widest one in the catalog,
  except in the last column, and an empty line parts records of different types. A run that moves
  one station changes one line.
* **Plain**: pretty-printed JSON with two spaces a level.

Both are ASCII, end with a line break, and are given for a consistent catalog only.
-/

namespace RadarCatalog.Catalog

open RadarCatalog.Json

/-- The two layouts. -/
inductive Format where
  | aligned
  | plain
deriving DecidableEq, Inhabited

/-! ## 1. Cells and columns -/

/-- The text of a key in a cell. -/
def keyText (key : String) : List Char := asciiOnly (printString key)

/-- The text of a value in a cell. -/
def valueText (s : Scalar) : List Char := asciiOnly s.print

/-- The values of a record, one for each column. -/
def Record.cells (r : Record) : List (List Char) := (Fields.values r.fields).map valueText

/-- The column widths after one more row. -/
def widen (widths : List Nat) (cells : List (List Char)) : List Nat :=
  List.zipWith (fun width cell => max width cell.length) widths cells

/-- The width of each of `columns` columns: that of its widest cell. -/
def columnWidths (columns : Nat) (rows : List (List (List Char))) : List Nat :=
  rows.foldl widen (List.replicate columns 0)

/-! ## 2. The aligned layout -/

/-- The cells of a row with their keys and widths: a comma and the padding behind each cell but
    the last. -/
def rowText : List (List Char × List Char × Nat) → List Char
  | [] => []
  | [(key, value, _)] => key ++ ':' :: ' ' :: value
  | (key, value, width) :: rest =>
    key ++ ':' :: ' ' :: value ++ ',' :: ' ' :: List.replicate (width - value.length) ' ' ++
      rowText rest

/-- The line of a record, with a comma behind it unless it is the last. -/
def lineText (keys : List (List Char)) (widths : List Nat) (r : Record) (isLast : Bool) :
    List Char :=
  '\t' :: '{' :: ' ' :: rowText (keys.zip (r.cells.zip widths)) ++
    (if isLast then [' ', '}', '\n'] else [' ', '}', ',', '\n'])

/-- The types of two neighbours differ, so an empty line parts them. -/
def partsTypes (a b : Record) : Bool :=
  match a.type?, b.type? with
  | some s, some t => !s.sameValue t
  | none, none => false
  | _, _ => true

/-- The lines of records, each with the empty line that follows it if there is one. -/
def linesText (keys : List (List Char)) (widths : List Nat) : List Record → List Char
  | [] => []
  | [r] => lineText keys widths r true
  | r :: next :: rest =>
    lineText keys widths r false ++ (if partsTypes r next then ['\n'] else []) ++
      linesText keys widths (next :: rest)

/-- The aligned text of records with these keys. -/
def alignedText (keys : List String) (records : List Record) : List Char :=
  '[' :: '\n' ::
    linesText (keys.map keyText) (columnWidths keys.length (records.map Record.cells)) records ++
    [']', '\n']

/-! ## 3. Rendering -/

/-- The aligned layout. -/
def renderAligned (c : Catalog) : Except CatalogError String := do
  let keys ← c.schema
  return String.ofList (alignedText keys c.records)

/-- The plain layout. -/
def renderPlain (c : Catalog) : Except CatalogError String := do
  let _ ← c.schema
  return String.ofList (asciiOnly (c.toJson.pretty 2) ++ ['\n'])

/-- The text of a catalog in a layout. -/
def render (c : Catalog) : Format → Except CatalogError String
  | .aligned => c.renderAligned
  | .plain => c.renderPlain

end RadarCatalog.Catalog
