import RadarCatalog.Catalog.Merge
import RadarCatalog.Proofs.Catalog.Records

/-!
# What a merge keeps

* `valid_merge`, `consistent_merge`: the next catalog is valid and consistent if the previous one
  was. All three fates leave the same keys, the old ones and `elevation` behind them if it is new
  (`keys_mergeRecord`).
* `get?_mergeRecord`: the value under each key of a merged record.
* `merge_merge`: the same merge once more finds nothing to do, and reports the same.
* `merge_congr`: stations that answer alike for every id are merged alike.
* `valid_fresh`, `consistent_fresh`: a fresh catalog.
-/

namespace RadarCatalog.Catalog

open RadarCatalog.Json RadarCatalog.Registry

/-! ## 1. Setters -/

namespace Record

/-- A value under any key but the id leaves the record valid. -/
theorem Valid.put {r : Record} (h : r.Valid) (key : String) (hkey : key ≠ "id") (value : Scalar) :
    Valid { r with fields := Fields.put key value r.fields } where
  id := by
    have := h.id
    simp only [get?, Fields.get?_put, hkey, if_false] at this ⊢
    exact this
  required := by
    intro k hk
    rw [Fields.has_put, h.required k hk, Bool.or_true]
  distinct := Fields.distinct_put h.distinct key value

theorem valid_setPosition {r : Record} (h : r.Valid) (lat lon : Numeric.Binary64) :
    (r.setPosition lat lon).Valid :=
  (h.put "lat" (by decide) _).put "lon" (by decide) _

theorem valid_setElevation {r : Record} (h : r.Valid) (elevation : Option Numeric.Binary64) :
    (r.setElevation elevation).Valid :=
  h.put "elevation" (by decide) _

/-- A position that the record has already. -/
theorem setPosition_of_get? {r : Record} {lat lon : Numeric.Binary64}
    (hlat : r.get? "lat" = some (.ofBinary64 lat)) (hlon : r.get? "lon" = some (.ofBinary64 lon)) :
    r.setPosition lat lon = r := by
  rw [setPosition, Fields.put_of_get? hlat, Fields.put_of_get? hlon]

/-- An elevation that the record has already. -/
theorem setElevation_of_get? {r : Record} {elevation : Option Numeric.Binary64}
    (h : r.get? "elevation" = some (elevationValue elevation)) : r.setElevation elevation = r := by
  rw [setElevation, Fields.put_of_get? h]

end Record

/-! ## 2. One record -/

section Record

variable (stations : Stations) (allow : Option AllowList)

/-- The station that gives the record of an id its position: it is known, and may move the
    record. -/
def mover (id : String) : Option Station :=
  if allows allow id then stations.get? id else none

theorem id_mergeRecord (r : Record) : (mergeRecord stations allow r).1.id = r.id := by
  unfold mergeRecord
  split
  · split
    · rfl
    · rfl
  · split
    · rfl
    · rfl

theorem valid_mergeRecord {r : Record} (h : r.Valid) : (mergeRecord stations allow r).1.Valid := by
  unfold mergeRecord
  split
  · split
    · exact h
    · exact Record.valid_setElevation h none
  · split
    · exact Record.valid_setElevation (Record.valid_setPosition h _ _) _
    · exact Record.valid_setElevation h _

/-- The keys of a record, with `elevation` behind them if it is not among them. -/
def withElevation (keys : List String) : List String :=
  if "elevation" ∈ keys then keys else keys ++ ["elevation"]

theorem keys_setElevation_eq (r : Record) (elevation : Option Numeric.Binary64) :
    (r.setElevation elevation).keys = withElevation r.keys := by
  rw [Record.keys_setElevation, withElevation]
  by_cases h : "elevation" ∈ r.keys
  · rw [if_pos h, if_pos ((Fields.has_iff_mem_keys _ _).2 h)]
  · rw [if_neg h, if_neg fun he => h ((Fields.has_iff_mem_keys _ _).1 he)]

/-- **All three fates leave the same keys.** -/
theorem keys_mergeRecord {r : Record} (h : r.Valid) :
    (mergeRecord stations allow r).1.keys = withElevation r.keys := by
  unfold mergeRecord
  split
  · split
    · rename_i he
      exact (if_pos ((Fields.has_iff_mem_keys _ _).1 he)).symm
    · exact keys_setElevation_eq r none
  · split
    · rw [keys_setElevation_eq, Record.keys_setPosition (h.required "lat" (by decide))
        (h.required "lon" (by decide))]
    · exact keys_setElevation_eq r _

/-- The elevation of a merged record: that of the station, or else the old one, or else null. -/
theorem elevation_mergeRecord (r : Record) :
    (mergeRecord stations allow r).1.get? "elevation" =
      some (match stations.get? r.id with
        | some s => Record.elevationValue s.elevation
        | none => (r.get? "elevation").getD .null) := by
  unfold mergeRecord
  split
  · rename_i hs
    rw [hs]
    split
    · rename_i he
      obtain ⟨v, hv⟩ := Option.isSome_iff_exists.1 he
      show r.get? "elevation" = some ((r.get? "elevation").getD .null)
      rw [show r.get? "elevation" = some v from hv]
      rfl
    · rename_i he
      have hnone : r.get? "elevation" = none := by
        simpa [Fields.has, Record.get?] using he
      rw [Record.get?_setElevation, hnone]
      rfl
  · rename_i s hs
    rw [hs]
    split
    · rw [Record.get?_setElevation, if_pos rfl]
    · rw [Record.get?_setElevation, if_pos rfl]

/-- The other values of a merged record: the position may be that of the station. -/
theorem get?_mergeRecord (r : Record) (key : String) (hkey : key ≠ "elevation") :
    (mergeRecord stations allow r).1.get? key =
      match mover stations allow r.id with
      | some s => (r.setPosition s.lat s.lon).get? key
      | none => r.get? key := by
  have hset : ∀ (r' : Record) (e : Option Numeric.Binary64),
      (r'.setElevation e).get? key = r'.get? key := by
    intro r' e
    rw [Record.get?_setElevation, if_neg (Ne.symm hkey)]
  unfold mergeRecord mover
  split
  · rename_i hs
    rw [hs, ite_self]
    split
    · rfl
    · exact hset r none
  · rename_i s hs
    split
    · rw [hs]
      exact hset _ _
    · exact hset r _

/-- **The same merge once more** leaves the record and its fate as they are. -/
theorem mergeRecord_mergeRecord (r : Record) :
    mergeRecord stations allow (mergeRecord stations allow r).1 = mergeRecord stations allow r := by
  have hid := id_mergeRecord stations allow r
  have he := elevation_mergeRecord stations allow r
  cases hs : stations.get? r.id with
  | none =>
    have hfate : (mergeRecord stations allow r).2 = .notFound := by
      simp only [mergeRecord, hs]
    have hhas : Fields.has (mergeRecord stations allow r).1.fields "elevation" = true := by
      rw [Fields.has]
      exact Option.isSome_iff_exists.2 ⟨_, he⟩
    rw [mergeRecord, hid, hs]
    simp only [hhas, if_true]
    exact Prod.ext rfl hfate.symm
  | some s =>
    rw [hs] at he
    cases ha : allows allow r.id with
    | false =>
      have hfate : (mergeRecord stations allow r).2 = .elevationOnly := by
        simp only [mergeRecord, hs, ha, Bool.false_eq_true, if_false]
      rw [mergeRecord, hid, hs]
      simp only [ha, Bool.false_eq_true, if_false, Record.setElevation_of_get? he]
      exact Prod.ext rfl hfate.symm
    | true =>
      have hfate : (mergeRecord stations allow r).2 = .full := by
        simp only [mergeRecord, hs, ha, if_true]
      have hmover : mover stations allow r.id = some s := by rw [mover, ha, if_pos rfl, hs]
      have hlat := get?_mergeRecord stations allow r "lat" (by decide)
      have hlon := get?_mergeRecord stations allow r "lon" (by decide)
      simp only [hmover, Record.get?_setPosition] at hlat hlon
      rw [mergeRecord, hid, hs]
      simp only [ha, if_true, Record.setPosition_of_get? hlat hlon, Record.setElevation_of_get? he]
      exact Prod.ext rfl hfate.symm

end Record

/-! ## 3. All records -/

theorem records_merge (stations : Stations) (c : Catalog) (allow : Option AllowList) :
    (merge stations c allow).catalog.records =
      c.records.map fun r => (mergeRecord stations allow r).1 := by
  simp only [merge, List.map_map]
  rfl

/-- A merge keeps the records valid. -/
theorem valid_merge {c : Catalog} (h : c.Valid) (stations : Stations) (allow : Option AllowList) :
    (merge stations c allow).catalog.Valid := by
  intro r hr
  rw [records_merge] at hr
  obtain ⟨r', hr', rfl⟩ := List.mem_map.1 hr
  exact valid_mergeRecord stations allow (h r' hr')

theorem listsKeys_merge {c : Catalog} (h : c.Valid) {keys : List String} (hk : c.ListsKeys keys)
    (stations : Stations) (allow : Option AllowList) :
    (merge stations c allow).catalog.ListsKeys (withElevation keys) := by
  intro r hr
  rw [records_merge] at hr
  obtain ⟨r', hr', rfl⟩ := List.mem_map.1 hr
  rw [keys_mergeRecord stations allow (h r' hr'), hk r' hr']

/-- **A merge keeps the catalog consistent.** -/
theorem consistent_merge {c : Catalog} (h : c.Valid) (hc : c.Consistent) (stations : Stations)
    (allow : Option AllowList) : (merge stations c allow).catalog.Consistent := by
  obtain ⟨keys, hk⟩ := hc
  exact ⟨withElevation keys, listsKeys_merge h hk stations allow⟩

/-- **The same merge once more** gives the same catalog and the same report. -/
theorem merge_merge (stations : Stations) (c : Catalog) (allow : Option AllowList) :
    merge stations (merge stations c allow).catalog allow = merge stations c allow := by
  simp only [merge, List.map_map, Function.comp_def, mergeRecord_mergeRecord]

/-- Of the stations a record depends on what is found under its id. -/
theorem mergeRecord_congr {stations stations' : Stations} {r : Record}
    (h : stations'.get? r.id = stations.get? r.id) (allow : Option AllowList) :
    mergeRecord stations' allow r = mergeRecord stations allow r := by
  rw [mergeRecord, h, ← mergeRecord]

/-- A merge consults the stations by their ids alone. -/
theorem merge_congr {stations stations' : Stations}
    (h : ∀ id, stations'.get? id = stations.get? id) (c : Catalog) (allow : Option AllowList) :
    merge stations' c allow = merge stations c allow := by
  have hrecord : mergeRecord stations' allow = mergeRecord stations allow :=
    funext fun r => mergeRecord_congr (h r.id) allow
  rw [merge, hrecord, ← merge]

/-! ## 4. Fresh catalogs -/

theorem valid_freshRecord (types : List (String × String)) (s : Station) :
    (freshRecord types s).Valid where
  id := rfl
  required := by
    intro key hkey
    simp only [requiredKeys, List.mem_cons, List.not_mem_nil, or_false] at hkey
    rcases hkey with rfl | rfl | rfl | rfl
    · rfl
    · rfl
    · rfl
    · rfl
  distinct := by
    show ["type", "id", "lat", "lon", "elevation"].Nodup
    decide

theorem valid_fresh (stations : Stations) (types : List (String × String)) :
    (fresh stations types).Valid := by
  intro r hr
  obtain ⟨s, _, rfl⟩ := List.mem_map.1 hr
  exact valid_freshRecord types s

/-- **A fresh catalog is consistent.** -/
theorem consistent_fresh (stations : Stations) (types : List (String × String)) :
    (fresh stations types).Consistent := by
  refine ⟨["type", "id", "lat", "lon", "elevation"], ?_⟩
  intro r hr
  obtain ⟨s, _, rfl⟩ := List.mem_map.1 hr
  rfl

end RadarCatalog.Catalog
