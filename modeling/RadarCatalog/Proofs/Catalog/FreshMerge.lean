import RadarCatalog.Proofs.Catalog.CoordinateLines
import RadarCatalog.Proofs.Catalog.MergePolicy
import RadarCatalog.Proofs.Catalog.RoundTrip
import RadarCatalog.Proofs.Registry.Reduction

/-!
# A fresh catalog and a merge with the same stations

A fresh catalog and a merge write the same five fields, each in its own way: the one lays the
fields out, the other puts a position and an elevation into a record that is there. On the same
stations they agree.

* `Record.Describes` relates a record to its station, `Lists` a catalog to its stations. A finite
  number of the station stands in the record as it is (`Scalar.ofBinary64_finite`), and any other as
  null;
* `mergeRecord_freshRecord`: the merge puts what is there already, whoever may be moved;
* `exists_coordinates_fresh`: the positions of canonical stations are numbers;
* `fresh_agrees_with_merge` is all this, for every run of insertions.
-/

namespace RadarCatalog.Catalog

open RadarCatalog.Json RadarCatalog.Numeric RadarCatalog.Registry

/-! ## 1. Records of stations -/

/-- The keys of a fresh record. -/
def freshKeys : List String := ["type", "id", "lat", "lon", "elevation"]

/-- The record holds what is known of the station, and its JSON fields are accepted. -/
structure Record.Describes (types : List (String × String)) (s : Station) (r : Record) : Prop where
  id : r.id = s.id
  keys : r.keys = freshKeys
  type : r.get? "type" = some (.string (typeOf types s.platform))
  idField : r.get? "id" = some (.string s.id)
  lat : r.get? "lat" = some (.ofBinary64 s.lat)
  lon : r.get? "lon" = some (.ofBinary64 s.lon)
  elevation : r.get? "elevation" = some (Record.elevationValue s.elevation)
  accepted : Record.ofFields r.jsonFields = .ok r

variable (types : List (String × String))

theorem describes_freshRecord (s : Station) : (freshRecord types s).Describes types s where
  id := rfl
  keys := rfl
  type := rfl
  idField := rfl
  lat := rfl
  lon := rfl
  elevation := rfl
  accepted := (valid_freshRecord types s).ofFields_jsonFields

theorem ids_fresh (s : Stations) : (fresh s types).ids = s.ids := by
  rw [ids, fresh, List.map_map, Stations.ids]
  rfl

/-- One record a station, the ids in the order in which they were first inserted. -/
structure Lists (stations : List Station) (c : Catalog) : Prop where
  records : List.Forall₂ (fun s r => Record.Describes types s r)
    (Stations.empty.insertAll stations).toList c.records
  ids : c.ids = (stations.map Station.id).eraseDups
  distinct : c.ids.Nodup

theorem lists_fresh (stations : List Station) :
    Lists types stations (fresh (Stations.empty.insertAll stations) types) where
  records := by
    rw [fresh, List.forall₂_map_right_iff, List.forall₂_same]
    exact fun s _ => describes_freshRecord types s
  ids := by
    rw [ids_fresh, Stations.ids_insertAll]
  distinct := by
    rw [ids_fresh]
    exact (Stations.coherent_insertAll stations).nodup_ids

/-! ## 2. The merge with the same stations -/

section Merge

variable {stations : Stations} (h : stations.Coherent) (allow : Option AllowList)
include h

/-- **The merge puts what is there.** The record of a station is found, and moved to where it is or
    not moved. -/
theorem mergeRecord_freshRecord {s : Station} (hs : s ∈ stations.toList) :
    (mergeRecord stations allow (freshRecord types s)).1 = freshRecord types s ∧
      (mergeRecord stations allow (freshRecord types s)).2 ≠ .notFound := by
  have hdescribes := describes_freshRecord types s
  have hfound : stations.get? (freshRecord types s).id = some s := h.get?_of_mem hs
  have hposition := Record.setPosition_of_get? hdescribes.lat hdescribes.lon
  have helevation := Record.setElevation_of_get? hdescribes.elevation
  rw [mergeRecord, hfound]
  cases allows allow (freshRecord types s).id with
  | true =>
    simp only [if_true, hposition, helevation]
    exact ⟨trivial, by decide⟩
  | false =>
    simp only [Bool.false_eq_true, if_false, helevation]
    exact ⟨trivial, by decide⟩

theorem catalog_merge_fresh :
    (merge stations (fresh stations types) allow).catalog = fresh stations types := by
  have hrecords := records_merge stations (fresh stations types) allow
  rw [fresh, List.map_map] at hrecords
  have hsame : (stations.toList.map ((fun r => (mergeRecord stations allow r).1) ∘
      freshRecord types)) = stations.toList.map (freshRecord types) :=
    List.map_congr_left fun s hs => (mergeRecord_freshRecord types h allow hs).1
  rw [hsame] at hrecords
  exact congrArg Catalog.mk hrecords

/-- No record of the merge is missing from the stations. -/
theorem fate_merge_fresh : ∀ m ∈ (fresh stations types).records.map (mergeRecord stations allow),
    m.2 ≠ .notFound := by
  intro m hm
  rw [fresh, List.map_map] at hm
  obtain ⟨s, hs, rfl⟩ := List.mem_map.1 hm
  exact (mergeRecord_freshRecord types h allow hs).2

end Merge

/-- The merge finds every record, and leaves the catalog with the layout and the texts it had. -/
structure Confirms (m : Merge) (c : Catalog) : Prop where
  records : List.Forall₂ (fun r r' => r.sameLayout r' = true) m.catalog.records c.records
  notFound : m.notFound = []
  count : m.summary.notFound = 0
  texts : ∀ f : Format, ∃ text, c.render f = .ok text ∧ m.catalog.render f = .ok text

theorem confirms_fresh {stations : Stations} (h : stations.Coherent) (allow : Option AllowList) :
    Confirms (merge stations (fresh stations types) allow) (fresh stations types) where
  records := by
    rw [catalog_merge_fresh types h allow, List.forall₂_same]
    exact fun r _ => Record.sameLayout_self r
  notFound := by
    have hfate := fate_merge_fresh types h allow
    simp only [merge, List.map_eq_nil_iff, List.filter_eq_nil_iff, decide_eq_true_eq]
    exact hfate
  count := by
    have hfate := fate_merge_fresh types h allow
    simp only [merge, List.countP_eq_zero, decide_eq_true_eq]
    exact hfate
  texts := by
    intro f
    obtain ⟨text, htext⟩ := exists_render (consistent_fresh stations types) f
    exact ⟨text, htext, by rw [catalog_merge_fresh types h allow, htext]⟩

/-! ## 3. Coordinates -/

/-- **Canonical stations have positions**: a number that was read is finite. -/
theorem exists_coordinates_fresh {p : Policy} {reports : List StationReport} {c : Canonical}
    (h : Reduces p reports c) : ∃ text, (fresh c.stations types).coordinates = .ok text := by
  refine exists_coordinates.2 ?_
  intro r hr
  obtain ⟨s, hs, rfl⟩ := List.mem_map.1 hr
  obtain ⟨_, _, htaken⟩ := h.exists_taken hs
  obtain ⟨lat, _, hlat⟩ := htaken.lat
  obtain ⟨lon, _, hlon⟩ := htaken.lon
  have hdescribes := describes_freshRecord types s
  have hfirst := hdescribes.lat
  have hsecond := hdescribes.lon
  rw [hlat] at hfirst
  rw [hlon] at hsecond
  exact ⟨_, _, hfirst, hsecond⟩

/-! ## 4. The agreement -/

/-- **A fresh catalog and a merge agree.** After any insertions the fresh catalog lists the
    stations, and a merge with the same stations confirms it under every allow-list. If the
    stations are canonical, the catalog has a coordinate listing. -/
theorem fresh_agrees_with_merge :
    (∀ stations : List Station,
      Lists types stations (fresh (Stations.empty.insertAll stations) types) ∧
        ∀ allow : Option AllowList,
          Confirms (merge (Stations.empty.insertAll stations)
            (fresh (Stations.empty.insertAll stations) types) allow)
            (fresh (Stations.empty.insertAll stations) types)) ∧
      ∀ (p : Policy) (reports : List StationReport) (c : Canonical),
        canonicalize p reports = .ok c → ∃ text, (fresh c.stations types).coordinates = .ok text := by
  constructor
  · intro stations
    refine ⟨lists_fresh types stations, ?_⟩
    intro allow
    exact confirms_fresh types (Stations.coherent_insertAll stations) allow
  · intro p reports c hc
    exact exists_coordinates_fresh types (reduces_of_canonicalize hc)

/-- A radar with a platform that the table gives a type. -/
def exampleReport : StationReport :=
  ⟨[⟨"NEXRAD", "KABC"⟩], [⟨"GROUND", "1200"⟩], "35.3331", "-97.2778", ["NEXRAD"]⟩

/-- Canonical stations are listed; and a fresh catalog of two stations, one of them inserted twice, is
    confirmed by a merge that may move one of them alone. -/
theorem fresh_agrees_with_merge_example :
    (∃ c text, canonicalize .standard [exampleReport] = .ok c ∧
      (fresh c.stations [("NEXRAD", "wsr88d")]).coordinates = .ok text) ∧
    let stations := Stations.empty.insertAll [stationAt "A" "1.5" "-2.5" "100",
      stationAt "B" "3.5" "4.5" "200", stationAt "A" "5.5" "6.5" "300"]
    let c := fresh stations []
    let m := merge stations c (some (.ofList ["A"]))
    c.ids = ["A", "B"] ∧ m.notFound = [] ∧ m.summary.notFound = 0 ∧
      ∃ text, c.render .aligned = .ok text ∧ m.catalog.render .aligned = .ok text := by
  constructor
  · have hfault : (firstReports .standard [exampleReport]).findSome? (faultOf .standard) = none := by
      decide +kernel
    obtain ⟨c, hc⟩ := exists_canonicalize hfault
    obtain ⟨text, htext⟩ :=
      (fresh_agrees_with_merge [("NEXRAD", "wsr88d")]).2 .standard [exampleReport] c hc
    exact ⟨c, text, hc, htext⟩
  · intro stations c m
    obtain ⟨hlists, hconfirms⟩ := (fresh_agrees_with_merge []).1
      [stationAt "A" "1.5" "-2.5" "100", stationAt "B" "3.5" "4.5" "200",
        stationAt "A" "5.5" "6.5" "300"]
    have hm := hconfirms (some (.ofList ["A"]))
    exact ⟨hlists.ids, hm.notFound, hm.count, hm.texts .aligned⟩

end RadarCatalog.Catalog
