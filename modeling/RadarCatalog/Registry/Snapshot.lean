import RadarCatalog.Json.Error
import RadarCatalog.Json.Printer
import RadarCatalog.Json.Reader
import RadarCatalog.Registry.Report

/-!
# Snapshots of the registry

A snapshot is a list of station values as the registry sends them. This module reads and writes
snapshot texts, finds the list in a response, and decodes the values into station reports.

A station and its parts are wire records: objects of which some fields are wanted and all others
are ignored, or lists of the wanted fields in their order of declaration.

* An object is decoded field by field in the order of its text, so the first wanted field that
  does not fit is reported; then the first declared field that is absent and has no default.
* A list is decoded in the order of declaration; an absent field without default and values left
  over are errors of the list's length.
-/

namespace RadarCatalog.Registry

open RadarCatalog.Json

/-! ## 1. Errors -/

/-- A wire record: its name and how many fields it declares. -/
structure WireRecord where
  name : String
  arity : Nat
deriving DecidableEq

/-- Why a value does not decode. -/
inductive DecodeError where
  | wrongKind (found : Found) (expected : String)
  | missingField (name : String)
  | noText
  | tooShort (length : Nat) (record : WireRecord)
  | tooLong (length : Nat)
deriving DecidableEq

/-- The wording of an error. -/
def DecodeError.message : DecodeError → String
  | .wrongKind found expected => "invalid type: " ++ found.describe ++ ", expected " ++ expected
  | .missingField name => "missing field `" ++ name ++ "`"
  | .noText => "data did not match any variant of untagged enum Text"
  | .tooShort length record =>
    "invalid length " ++ toString length ++ ", expected struct " ++ record.name ++ " with " ++
      toString record.arity ++ (if record.arity = 1 then " element" else " elements")
  | .tooLong length =>
    "invalid length " ++ toString length ++ ", expected fewer elements in array"

/-- What decoding a value of some kind is. -/
abbrev Decoder (α : Type) := Value → Except DecodeError α

/-! ## 2. Plain values -/

/-- A string. -/
def decodeString : Decoder String
  | .scalar (.string s) => .ok s
  | v => .error (.wrongKind v.found "a string")

/-- A string, or a number in its JSON text. -/
def decodeText : Decoder String
  | .scalar (.string s) => .ok s
  | .scalar (.number n) => .ok (String.ofList n.text)
  | _ => .error .noText

/-- A string or number, or null for the empty text. -/
def decodeTextOrNull : Decoder String
  | .scalar .null => .ok ""
  | v => decodeText v

/-- A list of values of one kind. -/
def decodeList {α : Type} (item : Decoder α) : Decoder (List α)
  | .list vs => vs.mapM item
  | v => .error (.wrongKind v.found "a sequence")

/-! ## 3. Wire records -/

/-- A wanted field: its name, how its value decodes and what it is when absent. -/
structure Slot (α : Type) where
  name : String
  decode : Decoder α
  absent : Option α

/-- The check that a slot makes on a field, whatever it decodes to. -/
def Slot.check {α : Type} (slot : Slot α) : String × Decoder Unit :=
  (slot.name, fun v => (slot.decode v).map fun _ => ())

/-- Where the fields of a wire record stand: by name or by position. -/
inductive Source where
  | named (fields : Fields Value)
  | listed (values : List Value)

/-- The check of a field of an object; a field that is not wanted passes. -/
def checkField (checks : List (String × Decoder Unit)) (field : String × Value) :
    Except DecodeError Unit :=
  match checks.lookup field.1 with
  | some check => check field.2
  | none => .ok ()

/-- The source of a wire record. The wanted fields of an object are checked here, in the order of
    the text. -/
def WireRecord.source (record : WireRecord) (checks : List (String × Decoder Unit)) :
    Decoder Source
  | .object fs => do
    fs.forM (checkField checks)
    return .named fs
  | .list vs => .ok (.listed vs)
  | v => .error (.wrongKind v.found ("struct " ++ record.name))

/-- The field of a slot at its place of declaration. -/
def Slot.get {α : Type} (slot : Slot α) (record : WireRecord) (position : Nat) (source : Source) :
    Except DecodeError α :=
  match source with
  | .named fs =>
    match fs.get? slot.name, slot.absent with
    | some v, _ => slot.decode v
    | none, some a => .ok a
    | none, none => .error (.missingField slot.name)
  | .listed vs =>
    match vs[position]?, slot.absent with
    | some v, _ => slot.decode v
    | none, some a => .ok a
    | none, none => .error (.tooShort position record)

/-- No value of a list is left over. -/
def WireRecord.finish (record : WireRecord) : Source → Except DecodeError Unit
  | .named _ => .ok ()
  | .listed vs => if record.arity < vs.length then .error (.tooLong vs.length) else .ok ()

/-- A wire record with one wanted field. -/
def decodeRecordOne {α γ : Type} (record : WireRecord) (a : Slot α) (build : α → γ) :
    Decoder γ := fun v => do
  let source ← record.source [a.check] v
  let x ← a.get record 0 source
  record.finish source
  return build x

/-- A wire record with two wanted fields. -/
def decodeRecordTwo {α β γ : Type} (record : WireRecord) (a : Slot α) (b : Slot β)
    (build : α → β → γ) : Decoder γ := fun v => do
  let source ← record.source [a.check, b.check] v
  let x ← a.get record 0 source
  let y ← b.get record 1 source
  record.finish source
  return build x y

/-- An identifier: a category and an id. -/
def decodeIdentifier : Decoder Tagged :=
  decodeRecordTwo ⟨"HomrIdentifier", 2⟩ ⟨"idType", decodeString, none⟩ ⟨"id", decodeText, none⟩
    Tagged.mk

/-- The position: latitude and longitude. -/
def decodeHeader : Decoder (String × String) :=
  decodeRecordTwo ⟨"HomrHeader", 2⟩ ⟨"latitude_dec", decodeText, none⟩
    ⟨"longitude_dec", decodeText, none⟩ Prod.mk

/-- An elevation: its basis, and its value in feet if there is one. -/
def decodeElevation : Decoder Tagged :=
  decodeRecordTwo ⟨"HomrElevation", 2⟩ ⟨"elevationType", decodeString, none⟩
    ⟨"elevationFeet", decodeTextOrNull, some ""⟩ Tagged.mk

/-- The elevations of a location. -/
def decodeLocation : Decoder (List Tagged) :=
  decodeRecordOne ⟨"HomrLocation", 1⟩ ⟨"elevations", decodeList decodeElevation, some []⟩ id

/-- The name of a platform. -/
def decodePlatform : Decoder String :=
  decodeRecordOne ⟨"HomrPlatform", 1⟩ ⟨"platform", decodeString, none⟩ id

/-- The four wanted fields of a station. -/
def identifiersSlot : Slot (List Tagged) := ⟨"identifiers", decodeList decodeIdentifier, some []⟩

@[inherit_doc identifiersSlot]
def headerSlot : Slot (String × String) := ⟨"header", decodeHeader, none⟩

@[inherit_doc identifiersSlot]
def locationSlot : Slot (List Tagged) := ⟨"location", decodeLocation, some []⟩

@[inherit_doc identifiersSlot]
def platformsSlot : Slot (List String) := ⟨"platforms", decodeList decodePlatform, some []⟩

/-- A station. -/
def decodeStation : Decoder StationReport := fun v => do
  let record : WireRecord := ⟨"HomrStation", 4⟩
  let source ← record.source
    [identifiersSlot.check, headerSlot.check, locationSlot.check, platformsSlot.check] v
  let identifiers ← identifiersSlot.get record 0 source
  let header ← headerSlot.get record 1 source
  let elevations ← locationSlot.get record 2 source
  let platforms ← platformsSlot.get record 3 source
  record.finish source
  return ⟨identifiers, elevations, header.1, header.2, platforms⟩

/-! ## 4. Snapshots -/

/-- A station of a snapshot that does not decode. -/
structure SnapshotError where
  position : Nat
  cause : DecodeError
deriving DecidableEq

/-- The wording of an error. -/
def SnapshotError.message (e : SnapshotError) : String :=
  "upstream station " ++ toString e.position ++ ": " ++ e.cause.message

/-- The reports of a snapshot's stations; the first one that does not decode is the error. -/
def decodeStations (stations : List Value) : Except SnapshotError (List StationReport) :=
  stations.zipIdx.mapM fun s => (decodeStation s.1).mapError (SnapshotError.mk s.2)

/-- Reads a snapshot text. -/
def readSnapshot (text : String) : Except Json.Error (List Value) :=
  (Json.read (.listOf .any) text).map Value.items

/-- The text of a snapshot: four spaces a level and a line break at the end. -/
def snapshotText (stations : List Value) : String :=
  String.ofList ((Value.list stations).pretty 4 ++ ['\n'])

/-! ## 5. Responses -/

/-- Why a response holds no list of stations. -/
inductive ResponseError where
  | notObject
  | noCollection
  | stationsNotList
deriving DecidableEq

/-- The wording of an error. -/
def ResponseError.message (e : ResponseError) : String :=
  "invalid HOMR response: " ++
    match e with
    | .notObject => "response is not a JSON object"
    | .noCollection => "missing 'stationCollection'"
    | .stationsNotList => "'stations' is not an array"

/-- The stations of a response; a search without hits has none. -/
def stationsOfResponse : Value → Except ResponseError (List Value)
  | .object root =>
    match Fields.get? root "stationCollection" with
    | some (.object collection) =>
      match Fields.get? collection "stations" with
      | some (.list stations) => .ok stations
      | none | some (.scalar .null) => .ok []
      | some _ => .error .stationsNotList
    | _ => .error .noCollection
  | _ => .error .notObject

end RadarCatalog.Registry
