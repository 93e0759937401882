import RadarCatalog.Numeric.Numeral
import RadarCatalog.Registry.Policy
import RadarCatalog.Registry.Priority
import RadarCatalog.Registry.Report

/-!
# Canonical stations

One entry for each station id, in the order in which the registry first reports them.

* `Stations` keeps the entries with an index from ids to positions; `insert` takes an entry whose
  id is new and refuses any other, so the first entry of an id stays (`toList_insert`,
  `contains_insert`).
* `canonicalize` reduces station reports to such entries. A report without a ranked identifier is
  counted and skipped; so is one whose id is taken, whatever its other fields hold. Of every other
  report the latitude, the longitude and the chosen elevation must be finite numbers, and the
  first that is not is the error.
-/

namespace RadarCatalog.Registry

open RadarCatalog.Numeric

/-! ## 1. Entries by id -/

/-- The fields that the catalog takes from the registry. -/
structure Station where
  id : String
  lat : Binary64
  lon : Binary64
  elevation : Option Binary64
  platform : Option String
deriving DecidableEq, Inhabited

/-- Stations in order of their first appearance, with the position of each id. -/
structure Stations where
  entries : Array Station
  index : Std.HashMap String Nat

namespace Stations

/-- No stations. -/
def empty : Stations := ⟨#[], ∅⟩

instance : Inhabited Stations := ⟨empty⟩

/-- The id has an entry. -/
def contains (s : Stations) (id : String) : Bool := s.index.contains id

/-- The entry of an id. -/
def get? (s : Stations) (id : String) : Option Station := s.index[id]?.bind fun i => s.entries[i]?

/-- Appends a station whose id has no entry yet, and answers whether it did. -/
def insert (s : Stations) (station : Station) : Bool × Stations :=
  if s.contains station.id then (false, s)
  else (true, ⟨s.entries.push station, s.index.insert station.id s.entries.size⟩)

/-- Inserts stations in order. -/
def insertAll (s : Stations) (stations : List Station) : Stations :=
  stations.foldl (fun s station => (s.insert station).2) s

/-- The stations in order. -/
def toList (s : Stations) : List Station := s.entries.toList

/-- The ids in order. -/
def ids (s : Stations) : List String := s.toList.map Station.id

/-- How many stations there are. -/
def size (s : Stations) : Nat := s.entries.size

/-- An insertion is accepted exactly when the id is new. -/
theorem insert_fst (s : Stations) (station : Station) :
    (s.insert station).1 = !s.contains station.id := by
  cases h : s.contains station.id <;> simp [insert, h]

theorem toList_insert (s : Stations) (station : Station) :
    (s.insert station).2.toList =
      if s.contains station.id then s.toList else s.toList ++ [station] := by
  cases h : s.contains station.id <;> simp [insert, h, toList]

theorem contains_insert (s : Stations) (station : Station) (id : String) :
    (s.insert station).2.contains id = (station.id == id || s.contains id) := by
  cases h : s.contains station.id with
  | true =>
    by_cases e : station.id = id
    · subst e
      simp [insert, h]
    · simp [insert, h, e]
  | false =>
    simp only [insert, h, Bool.false_eq_true, if_false]
    exact Std.HashMap.contains_insert

end Stations

/-! ## 2. Numbers of a report -/

/-- One of the two coordinates. -/
inductive Axis where
  | latitude
  | longitude
deriving DecidableEq

/-- The name of a coordinate in messages. -/
def Axis.name : Axis → String
  | .latitude => "latitude"
  | .longitude => "longitude"

/-- A text that should be a finite number and is not. -/
inductive NumberError where
  | coordinate (position : Nat) (axis : Axis) (text : String)
  | elevation (id : String) (text : String)
deriving DecidableEq

/-- The wording of an error. -/
def NumberError.message : NumberError → String
  | .coordinate position axis text =>
    "upstream record " ++ toString position ++ ": cannot parse " ++ axis.name ++ " '" ++ text ++ "'"
  | .elevation id text => "station '" ++ id ++ "': cannot parse elevation '" ++ text ++ "'"

/-- The finite number that a text stands for, blank characters around it ignored. -/
def parseNumber? (text : String) : Option Finite := readFinite? (Text.trim text.toList)

/-- A coordinate of the report at a position. -/
def parseCoordinate (position : Nat) (axis : Axis) (text : String) :
    Except NumberError Binary64 :=
  match parseNumber? text with
  | some x => .ok (.finite x)
  | none => .error (.coordinate position axis text)

/-- An elevation of a station. -/
def parseElevation (id : String) (entry : Tagged) : Except NumberError Binary64 :=
  match parseNumber? entry.value with
  | some x => .ok (.finite x)
  | none => .error (.elevation id entry.value)

/-! ## 3. Reduction -/

/-- The stations of some reports, and how many reports gave none. -/
structure Canonical where
  stations : Stations
  duplicatesDropped : Nat
  unidentified : Nat
deriving Inhabited

/-- Nothing read yet. -/
def Canonical.empty : Canonical := ⟨.empty, 0, 0⟩

/-- The two priorities of a policy. -/
structure Ranking where
  identifiers : Priority
  elevations : Priority

/-- The priorities of a policy's lists. -/
def Ranking.ofPolicy (p : Policy) : Ranking := ⟨.ofList p.identifiers, .ofList p.elevations⟩

/-- The id of a report: its identifier with the best category. -/
def Ranking.idOf (r : Ranking) (report : StationReport) : Option String :=
  (r.identifiers.best Tagged.category report.identifiers).map Tagged.value

/-- The station of a report with an id. -/
def Ranking.stationOf (r : Ranking) (position : Nat) (id : String) (report : StationReport) :
    Except NumberError Station := do
  let lat ← parseCoordinate position .latitude report.latitude
  let lon ← parseCoordinate position .longitude report.longitude
  let elevation ← r.elevations.bestWith Tagged.category (parseElevation id) report.elevations
  return ⟨id, lat, lon, elevation, report.platforms.head?⟩

/-- Takes one more report, with its position among the reports. -/
def Canonical.add (r : Ranking) (c : Canonical) (report : StationReport × Nat) :
    Except NumberError Canonical :=
  match r.idOf report.1 with
  | none => .ok { c with unidentified := c.unidentified + 1 }
  | some id =>
    if c.stations.contains id then .ok { c with duplicatesDropped := c.duplicatesDropped + 1 }
    else
      match r.stationOf report.2 id report.1 with
      | .ok station => .ok { c with stations := (c.stations.insert station).2 }
      | .error e => .error e

/-- The canonical stations of some reports under a policy. -/
def canonicalize (p : Policy) (reports : List StationReport) : Except NumberError Canonical :=
  reports.zipIdx.foldlM (Canonical.add (Ranking.ofPolicy p)) .empty

end RadarCatalog.Registry
