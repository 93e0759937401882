import RadarCatalog.Catalog.AllowList
import RadarCatalog.Catalog.Basic

/-!
# Merging canonical stations into a catalog

A merge keeps the records and their order. Each record meets one of three fates: a station that the
registry does not have keeps its fields, with a null elevation if it had none; one that may be
moved takes position and elevation; any other takes the elevation alone.

`fresh` builds a catalog from the stations themselves.
-/

namespace RadarCatalog.Catalog

open RadarCatalog.Json RadarCatalog.Registry

/-! ## 1. Merging -/

/-- What a merge does to a record. -/
inductive Fate where
  | notFound
  | full
  | elevationOnly
deriving DecidableEq

/-- The station may be moved: there is no allow-list, or it is on it. -/
def allows (allow : Option AllowList) (id : String) : Bool :=
  match allow with
  | none => true
  | some list => list.contains id

/-- The next state of a record, and its fate. -/
def mergeRecord (stations : Stations) (allow : Option AllowList) (r : Record) : Record × Fate :=
  match stations.get? r.id with
  | none => (if Fields.has r.fields "elevation" then r else r.setElevation none, .notFound)
  | some s =>
    if allows allow r.id then ((r.setPosition s.lat s.lon).setElevation s.elevation, .full)
    else (r.setElevation s.elevation, .elevationOnly)

/-- How many records met each fate. -/
structure Summary where
  fullUpdates : Nat
  elevationOnly : Nat
  notFound : Nat
deriving DecidableEq, Inhabited

/-- What a merge gives: the next catalog, and the ids that were not found, in catalog order. -/
structure Merge where
  catalog : Catalog
  notFound : List String
  summary : Summary
deriving DecidableEq, Inhabited

/-- The wording of the report on a station that is not found. -/
def notFoundText (id : String) : String := "station '" ++ id ++ "' not found in upstream data"

/-- Merges the stations into the previous catalog. -/
def merge (stations : Stations) (previous : Catalog) (allow : Option AllowList) : Merge :=
  let merged := previous.records.map (mergeRecord stations allow)
  let count (fate : Fate) := merged.countP fun m => m.2 = fate
  { catalog := ⟨merged.map Prod.fst⟩
    notFound := (merged.filter fun m => m.2 = .notFound).map fun m => m.1.id
    summary := ⟨count .full, count .elevationOnly, count .notFound⟩ }

/-! ## 2. A fresh catalog -/

/-- The type of a station whose platform has none. -/
def unknownType : String := "?"

/-- The type that a table gives a platform. -/
def typeOf (types : List (String × String)) (platform : Option String) : String :=
  (platform.bind fun p => types.lookup p).getD unknownType

/-- The record of a station. -/
def freshRecord (types : List (String × String)) (s : Station) : Record where
  id := s.id
  fields :=
    [("type", .string (typeOf types s.platform)), ("id", .string s.id),
      ("lat", .ofBinary64 s.lat), ("lon", .ofBinary64 s.lon),
      ("elevation", Record.elevationValue s.elevation)]

/-- One record a station, in order. -/
def fresh (stations : Stations) (types : List (String × String)) : Catalog :=
  ⟨stations.toList.map (freshRecord types)⟩

end RadarCatalog.Catalog
