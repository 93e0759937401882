import RadarCatalog.Catalog.Layout
import RadarCatalog.Settings
import RadarCatalog.Update.Failure

/-!
# Revisions of a catalog text

A revision reads the text of a catalog, if there is one, reconciles it with a snapshot of the
registry, and leaves the text of the next catalog. This is an update without its files and its
log: what `revise` answers depends on texts alone.

A failed revision leaves the text it found, unless it fails after the next text is written.
-/

namespace RadarCatalog.Update

open RadarCatalog.Catalog RadarCatalog.Registry

/-! ## 1. Reconciling -/

/-- The next catalog, and the merge it came from if there was a previous one. -/
structure Reconciled where
  merge : Option Merge
  catalog : Catalog
deriving DecidableEq, Inhabited

/-- Merges the stations into the previous catalog, or builds a fresh one from them. -/
def reconcile (types : List (String × String)) (stations : Stations) (previous : Option Catalog)
    (allow : Option AllowList) : Reconciled :=
  match previous with
  | some previous =>
    let m := merge stations previous allow
    ⟨some m, m.catalog⟩
  | none => ⟨none, fresh stations types⟩

/-- The canonical stations of a list of station values. -/
def canonicalOf (policy : Policy) (stations : List Json.Value) : Except Failure Canonical := do
  let records ← (decodeStations stations).mapError Failure.station
  (canonicalize policy records).mapError Failure.number

/-! ## 2. A revision -/

/-- What a revision goes by: a snapshot text, an allow-list text if there is one, a layout. -/
structure Revision where
  snapshot : String
  allow : Option String
  format : Format
deriving DecidableEq, Inhabited

/-- What a revision reports. -/
structure Report where
  canonical : Canonical
  reconciled : Reconciled
  coordinates : Except CoordinateError String

/-- Everything up to the next catalog. -/
def Revision.prepare (s : Settings) (disk : Option String) (r : Revision) :
    Except Failure (Canonical × Reconciled) := do
  let previous ← disk.mapM fun text => (Catalog.parse text).mapError Failure.catalog
  let allow := r.allow.map (AllowList.parse s.sentinel)
  let stations ← (readSnapshot r.snapshot).mapError Failure.snapshotText
  let canonical ← canonicalOf s.policy stations
  return (canonical, reconcile s.types canonical.stations previous allow)

/-- A revision of the text on disk: the report or the failure, and the text it leaves. -/
def revise (s : Settings) (disk : Option String) (r : Revision) :
    Except Failure Report × Option String :=
  match r.prepare s disk with
  | .error e => (.error e, disk)
  | .ok (canonical, reconciled) =>
    match reconciled.catalog.render r.format with
    | .error e => (.error (.catalog e), disk)
    | .ok text =>
      match verify text reconciled.catalog with
      | .error e => (.error (.verification e), some text)
      | .ok _ => (.ok ⟨canonical, reconciled, reconciled.catalog.coordinates⟩, some text)

/-- Revisions one after the other, each on the text that the one before it left. -/
def reviseAll (s : Settings) : Option String → List Revision →
    List (Except Failure Report × Option String)
  | _, [] => []
  | disk, r :: rs =>
    let step := revise s disk r
    step :: reviseAll s step.2 rs

end RadarCatalog.Update
