import RadarCatalog.Catalog.Record
import RadarCatalog.Json.Error
import RadarCatalog.Json.Reader

/-!
# Catalogs

A catalog is a sequence of records. It is consistent when all records list the same keys in the
same order; that list is its schema.

* `Catalog.parse` reads a catalog text. Its errors come in this order: the text is no JSON list of
  objects; the first record that is not valid; the first record whose keys differ from those of
  the first one.
* `Catalog.schema` is the check for one key order, and the empty list for no records.
-/

namespace RadarCatalog

/-- A sequence of records. -/
structure Catalog where
  records : List Catalog.Record
deriving DecidableEq, Inhabited

namespace Catalog

open RadarCatalog.Json

/-! ## 1. Errors -/

/-- Why a text or some records are no consistent catalog. -/
inductive CatalogError where
  | json (e : Json.Error)
  | invalidRecord (position : Nat) (e : RecordError)
  | inconsistentSchema (position : Nat) (expected found : List String)
deriving DecidableEq

/-- Keys as an error lists them. -/
def listKeys (keys : List String) : String := "[" ++ ", ".intercalate keys ++ "]"

/-- The wording of an error. -/
def CatalogError.message : CatalogError → String
  | .json e => "invalid catalog: " ++ e.message
  | .invalidRecord position e => "catalog record " ++ toString position ++ ": " ++ e.message
  | .inconsistentSchema position expected found =>
    "inconsistent schema: record " ++ toString position ++ " has keys " ++ listKeys found ++
      ", expected " ++ listKeys expected

/-- The error is about keys that differ between records. -/
def CatalogError.isInconsistentSchema : CatalogError → Bool
  | .inconsistentSchema _ _ _ => true
  | _ => false

/-! ## 2. Records and their schema -/

/-- The catalog of some objects; the first invalid one is the error. -/
def ofObjects (objects : List (Fields Value)) : Except CatalogError Catalog :=
  (objects.zipIdx.mapM fun o =>
    (Record.ofFields o.1).mapError (CatalogError.invalidRecord o.2)).map Catalog.mk

/-- The first record, with its position, whose keys are not the expected ones. -/
def firstMismatch (expected : List String) (records : List (Record × Nat)) :
    Option (Record × Nat) :=
  records.find? fun r => r.1.keys ≠ expected

/-- The keys that every record lists in this order. -/
def schema (c : Catalog) : Except CatalogError (List String) :=
  match c.records.zipIdx with
  | [] => .ok []
  | (first, _) :: rest =>
    match firstMismatch first.keys rest with
    | none => .ok first.keys
    | some (record, position) => .error (.inconsistentSchema position first.keys record.keys)

/-- The ids in order. -/
def ids (c : Catalog) : List String := c.records.map Record.id

/-- How many records there are. -/
def size (c : Catalog) : Nat := c.records.length

/-- The catalog as a JSON list. -/
def toJson (c : Catalog) : Value := .list (c.records.map Record.toJson)

/-! ## 3. Reading -/

/-- The objects of a JSON text that is a list of objects. -/
def readObjects (text : String) : Except Json.Error (List (Fields Value)) :=
  (Json.read (.listOf .object) text).map fun v => v.items.map Value.fields

/-- The records of a text, whatever their keys. -/
def parseRecords (text : String) : Except CatalogError Catalog :=
  match readObjects text with
  | .ok objects => ofObjects objects
  | .error e => .error (.json e)

/-- The consistent catalog of a text. -/
def parse (text : String) : Except CatalogError Catalog := do
  let c ← parseRecords text
  let _ ← c.schema
  return c

end Catalog

end RadarCatalog
