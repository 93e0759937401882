import RadarCatalog.Json.Value
import RadarCatalog.Registry.Canonical

/-!
# Catalog records

A record is a list of fields with scalar values, among them `id`, `lat`, `lon` and `type`, and the
id once more beside them for looking it up. All fields but the position and the elevation are
carried along as they are.

* `Record.ofFields` accepts the fields of a JSON object, and says what is wrong with them: the
  first key missing, in the order above, then an id that is no string, then the first value with
  parts;
* `Record.sameLayout` is equality as values with equal key order;
* `keys_setPosition` and `keys_setElevation` say that keys keep their order, and that an elevation
  may be new.
-/

namespace RadarCatalog.Catalog

open RadarCatalog.Json RadarCatalog.Numeric

/-- A station of the catalog. -/
structure Record where
  id : String
  fields : Fields Scalar
deriving DecidableEq, Inhabited

/-- What can be wrong with the fields of a record. -/
inductive RecordError where
  | missingKey (key : String)
  | idNotString
  | notScalar (key : String)
deriving DecidableEq

/-- The wording of an error. -/
def RecordError.message : RecordError → String
  | .missingKey key => "missing required key '" ++ key ++ "'"
  | .idNotString => "'id' must be a string"
  | .notScalar key => "'" ++ key ++ "' is not a scalar value"

/-- The keys that every record has, in the order in which they are looked for. -/
def requiredKeys : List String := ["id", "lat", "lon", "type"]

/-- A field whose value has no parts. -/
def scalarField (field : String × Value) : Except RecordError (String × Scalar) :=
  match field.2.scalar? with
  | some s => .ok (field.1, s)
  | none => .error (.notScalar field.1)

namespace Record

/-- The record of an object's fields. -/
def ofFields (fs : Fields Value) : Except RecordError Record :=
  match requiredKeys.find? fun key => !fs.has key with
  | some key => .error (.missingKey key)
  | none =>
    match fs.get? "id" with
    | some (.scalar (.string id)) => (fs.mapM scalarField).map (Record.mk id)
    | _ => .error .idNotString

/-- The fields as they stand in a JSON object. -/
def jsonFields (r : Record) : Fields Value := r.fields.map fun f => (f.1, .scalar f.2)

/-- The record as a JSON object. -/
def toJson (r : Record) : Value := .object r.jsonFields

/-- The keys in order. -/
def keys (r : Record) : List String := Fields.keys r.fields

/-- The value under a key. -/
def get? (r : Record) (key : String) : Option Scalar := Fields.get? r.fields key

/-- The value of `type`. -/
def type? (r : Record) : Option Scalar := r.get? "type"

/-- Equal ids, equal keys in equal order, and equal values. -/
def sameLayout (a b : Record) : Bool :=
  a.id = b.id && a.keys = b.keys &&
    ((Fields.values a.fields).zip (Fields.values b.fields)).all fun p => p.1.sameValue p.2

/-- Gives the record another position; a key that it has keeps its place. -/
def setPosition (r : Record) (lat lon : Binary64) : Record :=
  { r with
    fields := Fields.put "lon" (.ofBinary64 lon) (Fields.put "lat" (.ofBinary64 lat) r.fields) }

/-- An elevation as a record holds it: null where there is none. -/
def elevationValue (elevation : Option Binary64) : Scalar :=
  match elevation with
  | some x => .ofBinary64 x
  | none => .null

@[simp] theorem elevationValue_some (x : Binary64) :
    elevationValue (some x) = .ofBinary64 x := rfl

@[simp] theorem elevationValue_none : elevationValue none = .null := rfl

/-- Gives the record another elevation, at the end if it has none yet. -/
def setElevation (r : Record) (elevation : Option Binary64) : Record :=
  { r with fields := Fields.put "elevation" (elevationValue elevation) r.fields }

/-! ### What the setters do -/

theorem get?_setPosition (r : Record) (lat lon : Binary64) (key : String) :
    (r.setPosition lat lon).get? key =
      if "lon" = key then some (.ofBinary64 lon)
      else if "lat" = key then some (.ofBinary64 lat)
      else r.get? key := by
  simp only [setPosition, get?, Fields.get?_put]

theorem get?_setElevation (r : Record) (elevation : Option Binary64) (key : String) :
    (r.setElevation elevation).get? key =
      if "elevation" = key then some (elevationValue elevation) else r.get? key :=
  Fields.get?_put r.fields "elevation" key (elevationValue elevation)

/-- A record with a position keeps its keys and their order when it is moved. -/
theorem keys_setPosition {r : Record} (hlat : Fields.has r.fields "lat" = true)
    (hlon : Fields.has r.fields "lon" = true) (lat lon : Binary64) :
    (r.setPosition lat lon).keys = r.keys := by
  have h : Fields.has (Fields.put "lat" (.ofBinary64 lat) r.fields) "lon" = true := by
    simpa [Fields.has, Fields.get?_put] using hlon
  simp only [setPosition, keys, Fields.keys_put, h, hlat, if_true]

theorem keys_setElevation (r : Record) (elevation : Option Binary64) :
    (r.setElevation elevation).keys =
      if Fields.has r.fields "elevation" then r.keys else r.keys ++ ["elevation"] :=
  Fields.keys_put r.fields "elevation" (elevationValue elevation)

end Record

end RadarCatalog.Catalog
