import RadarCatalog.Proofs.Catalog.Merging
import RadarCatalog.Proofs.Catalog.RoundTrip
import RadarCatalog.Proofs.Registry.Stations

/-!
# Records wherever their catalog comes from

The id of a record stands twice: under `id` and beside the fields. A merge looks stations up by the
one and a layout writes the other, so the two must agree in every catalog there can be, also in one
whose records no reader has checked.

* `Arises` are the ways in which catalogs come about: read, built, fresh, merged any number of times;
* `Record.Sound` is what holds of each of their records, down to being accepted again as it is;
* `Arises.valid`: every way of making a catalog establishes validity or keeps it;
* `sound_of_arises` is both together.
-/

namespace RadarCatalog.Catalog

open RadarCatalog.Json RadarCatalog.Registry

/-! ## 1. Origins -/

/-- How catalogs come about. Stations and allow-lists are arbitrary, and so are the numbers of the
    stations, finite or not. -/
inductive Arises : Catalog → Prop where
  | parsed {text : String} {c : Catalog} (accepted : parse text = .ok c) : Arises c
  -- the fields of an object list each key once, by the type of objects
  | built {objects : List (Fields Value)} {c : Catalog}
      (distinct : ∀ fs ∈ objects, Fields.Distinct fs) (accepted : ofObjects objects = .ok c) :
      Arises c
  | fresh (stations : Stations) (types : List (String × String)) : Arises (fresh stations types)
  | merged {c : Catalog} (previous : Arises c) (stations : Stations) (allow : Option AllowList) :
      Arises (merge stations c allow).catalog

/-- The two ids of the record agree, it has the required keys and scalar values, and lists each key
    once; so its own fields are accepted, as this very record. -/
structure Record.Sound (r : Record) : Prop where
  id : r.get? "id" = some (.string r.id)
  required : ∀ key ∈ ["id", "lat", "lon", "type"], key ∈ r.keys
  scalars : ∀ v ∈ Fields.values r.jsonFields, ∃ s, v = .scalar s
  distinct : r.keys.Nodup
  accepted : Record.ofFields r.jsonFields = .ok r

/-- A valid record is sound. -/
theorem Record.Valid.sound {r : Record} (h : r.Valid) : r.Sound where
  id := h.id
  required := by
    intro key hkey
    exact (Fields.has_iff_mem_keys r.fields key).1 (h.required key hkey)
  scalars := by
    intro v hv
    rw [Record.jsonFields, Fields.values, List.map_map] at hv
    obtain ⟨f, _, rfl⟩ := List.mem_map.1 hv
    exact ⟨f.2, rfl⟩
  distinct := h.distinct
  accepted := h.ofFields_jsonFields

/-! ## 2. The invariant -/

/-- **Every catalog that can come about is valid.** By induction on its origin: three kinds of origin
    establish validity, and a merge keeps it. -/
theorem Arises.valid {c : Catalog} (h : c.Arises) : c.Valid := by
  induction h with
  | parsed accepted => exact (sound_of_parse accepted).1
  | built distinct accepted => exact valid_of_ofObjects distinct accepted
  | fresh stations types => exact valid_fresh stations types
  | merged _ stations allow ih => exact valid_merge ih stations allow

/-- **Every record is sound, wherever its catalog comes from**, and the fields of all records make the
    catalog once more. -/
theorem sound_of_arises {c : Catalog} (h : c.Arises) :
    (∀ r ∈ c.records, r.Sound) ∧ ofObjects (c.records.map Record.jsonFields) = .ok c :=
  ⟨fun r hr => (h.valid r hr).sound, ofObjects_jsonFields h.valid⟩

/-- A station with the id of the example and with numbers that are none. -/
def strayStation : Station := ⟨exampleRecord.id, .nan, .infinite true, some (.infinite false), none⟩

/-- A record that was built, moved to no place at all, and then met by nothing. -/
theorem sound_of_arises_example :
    let moved := (merge (Stations.empty.insertAll [strayStation]) ⟨[exampleRecord]⟩ none).catalog
    let last := (merge .empty moved (some .empty)).catalog
    (∀ r ∈ moved.records, r.get? "lat" = some .null ∧ r.get? "elevation" = some .null) ∧
      (∀ r ∈ last.records, r.Sound) ∧ ofObjects (last.records.map Record.jsonFields) = .ok last := by
  intro moved last
  have hvalid : Valid ⟨[exampleRecord]⟩ := by
    intro r hr
    obtain rfl := List.mem_singleton.1 hr
    exact exampleRecord_valid
  have hdistinct : ∀ fs ∈ [exampleRecord.jsonFields], Fields.Distinct fs := by
    intro fs hfs
    obtain rfl := List.mem_singleton.1 hfs
    decide
  have hmoved : moved.Arises := .merged (.built hdistinct (ofObjects_jsonFields hvalid)) _ _
  refine ⟨?_, sound_of_arises (.merged hmoved .empty (some .empty))⟩
  intro r hr
  rw [records_merge] at hr
  obtain rfl := List.mem_singleton.1 hr
  have hget : (Stations.empty.insertAll [strayStation]).get? exampleRecord.id = some strayStation := by
    rw [Stations.get?_insertAll]
    rfl
  have hlat := get?_mergeRecord (Stations.empty.insertAll [strayStation]) none exampleRecord "lat"
    (by decide)
  have helevation := elevation_mergeRecord (Stations.empty.insertAll [strayStation]) none exampleRecord
  rw [mover, hget] at hlat
  rw [hget] at helevation
  exact ⟨hlat, helevation⟩

end RadarCatalog.Catalog
