import RadarCatalog.Proofs.Catalog.Merging
import RadarCatalog.Proofs.Registry.Stations

/-!
# The policy of a merge

What a merge does to each record and what it reports, said without the setters.

* `Authorised` is the right to move a station: there is no allow-list, or the station is on it.
* `Merged` relates a record to what a merge makes of it. Its key order and the values under its keys
  are all that there is to a record, so each of the three cases is pinned down as a whole. A finite
  number of the station is put down as it is, and any other as null: `Scalar.ofBinary64_finite`,
  `Scalar.ofBinary64_infinite` and `Scalar.ofBinary64_nan`.
* `merge_policy`: every record is merged in its place, the ids that are not found are reported in
  catalog order, and the three counts share the records among them.
-/

namespace RadarCatalog.Catalog

open RadarCatalog.Json RadarCatalog.Registry

/-! ## 1. One record -/

/-- A station may be moved where there is no allow-list, or it is on the list. -/
def Authorised (allow : Option AllowList) (id : String) : Prop :=
  ∀ list, allow = some list → list.contains id = true

theorem allows_iff {allow : Option AllowList} {id : String} :
    allows allow id = true ↔ Authorised allow id := by
  cases allow with
  | none => exact ⟨fun _ => nofun, fun _ => rfl⟩
  | some list =>
    constructor
    · intro h list' hlist
      cases hlist
      exact h
    · intro h
      exact h list rfl

instance (allow : Option AllowList) (id : String) : Decidable (Authorised allow id) :=
  decidable_of_iff _ allows_iff

/-- An empty list authorises nothing. -/
theorem not_authorised_empty (id : String) : ¬ Authorised (some .empty) id := by
  intro h
  have hcontains : AllowList.empty.contains id = true := h _ rfl
  have hempty : AllowList.empty.contains id = false := Std.HashSet.contains_empty
  rw [hempty] at hcontains
  cases hcontains

/-- The second record is what a merge makes of the first one. -/
structure Merged (stations : Stations) (allow : Option AllowList) (r r' : Record) : Prop where
  id : r'.id = r.id
  keys : r'.keys = if "elevation" ∈ r.keys then r.keys else r.keys ++ ["elevation"]
  unknown : stations.get? r.id = none →
    r'.fields = if "elevation" ∈ r.keys then r.fields else r.fields ++ [("elevation", .null)]
  moved : ∀ s, stations.get? r.id = some s → Authorised allow r.id →
    r'.get? "lat" = some (.ofBinary64 s.lat) ∧ r'.get? "lon" = some (.ofBinary64 s.lon) ∧
      r'.get? "elevation" = some (Record.elevationValue s.elevation) ∧
      ∀ key, key ∉ ["lat", "lon", "elevation"] → r'.get? key = r.get? key
  raised : ∀ s, stations.get? r.id = some s → ¬ Authorised allow r.id →
    r'.get? "elevation" = some (Record.elevationValue s.elevation) ∧
      ∀ key, key ≠ "elevation" → r'.get? key = r.get? key

section Record

variable (stations : Stations) (allow : Option AllowList)

theorem fields_mergeRecord_of_none {r : Record} (hnone : stations.get? r.id = none) :
    (mergeRecord stations allow r).1.fields =
      if "elevation" ∈ r.keys then r.fields else r.fields ++ [("elevation", .null)] := by
  have hhas : Fields.has r.fields "elevation" = true ↔ "elevation" ∈ r.keys :=
    Fields.has_iff_mem_keys _ _
  unfold mergeRecord
  rw [hnone]
  by_cases h : "elevation" ∈ r.keys
  · simp only [hhas.2 h, if_true, h]
  · have habsent : Fields.has r.fields "elevation" = false := by simpa using fun hf => h (hhas.1 hf)
    simp only [habsent, Bool.false_eq_true, if_false, h]
    exact Fields.put_absent _ h

/-- A station that may move a record does so. -/
theorem mover_of_authorised {id : String} {s : Station} (hs : stations.get? id = some s)
    (hallow : Authorised allow id) : mover stations allow id = some s := by
  rw [mover, if_pos (allows_iff.2 hallow), hs]

/-- **A record meets the policy.** -/
theorem merged_mergeRecord {r : Record} (h : r.Valid) :
    Merged stations allow r (mergeRecord stations allow r).1 where
  id := id_mergeRecord stations allow r
  keys := keys_mergeRecord stations allow h
  unknown := fields_mergeRecord_of_none stations allow
  moved := by
    intro s hs hallow
    have hmover := mover_of_authorised stations allow hs hallow
    have hvalue : ∀ key, key ≠ "elevation" →
        (mergeRecord stations allow r).1.get? key = (r.setPosition s.lat s.lon).get? key := by
      intro key hkey
      rw [get?_mergeRecord stations allow r key hkey, hmover]
    have helevation := elevation_mergeRecord stations allow r
    rw [hs] at helevation
    refine ⟨?_, ?_, helevation, ?_⟩
    · rw [hvalue "lat" (by decide), Record.get?_setPosition, if_neg (by decide), if_pos rfl]
    · rw [hvalue "lon" (by decide), Record.get?_setPosition, if_pos rfl]
    · intro key hkey
      simp only [List.mem_cons, List.not_mem_nil, or_false, not_or] at hkey
      obtain ⟨hlat, hlon, hother⟩ := hkey
      rw [hvalue key hother, Record.get?_setPosition, if_neg (Ne.symm hlon), if_neg (Ne.symm hlat)]
  raised := by
    intro s hs hallow
    have hmover : mover stations allow r.id = none := by
      rw [mover, if_neg fun ha => hallow (allows_iff.1 ha)]
    have helevation := elevation_mergeRecord stations allow r
    rw [hs] at helevation
    refine ⟨helevation, ?_⟩
    intro key hkey
    rw [get?_mergeRecord stations allow r key hkey, hmover]

end Record

/-! ## 2. The report -/

section Report

variable (stations : Stations) (c : Catalog) (allow : Option AllowList)

/-- The fate of an id, by what is known of it. -/
def meets (id : String) : Fate → Bool
  | .notFound => (stations.get? id).isNone
  | .full => (stations.get? id).isSome && decide (Authorised allow id)
  | .elevationOnly => (stations.get? id).isSome && !decide (Authorised allow id)

theorem decide_fate (r : Record) (fate : Fate) :
    decide ((mergeRecord stations allow r).2 = fate) = meets stations allow r.id fate := by
  unfold mergeRecord
  cases hs : stations.get? r.id with
  | none => cases fate <;> simp [meets, hs]
  | some s =>
    by_cases h : Authorised allow r.id
    · have ha := allows_iff.2 h
      cases fate <;> simp [meets, hs, h, ha]
    · have ha : allows allow r.id = false := by simpa using fun ha => h (allows_iff.1 ha)
      cases fate <;> simp [meets, hs, h, ha]

/-- A count of a merge is the count of the records that meet the fate. -/
theorem countP_fate (fate : Fate) :
    (c.records.map (mergeRecord stations allow)).countP (fun m => m.2 = fate) =
      c.records.countP fun r => meets stations allow r.id fate := by
  rw [List.countP_map]
  exact List.countP_congr fun r _ => by rw [← decide_fate]; rfl

/-- Every record meets one of the three fates. -/
theorem countP_fates : ∀ ms : List (Record × Fate),
    ms.countP (fun m => m.2 = .full) + ms.countP (fun m => m.2 = .elevationOnly) +
      ms.countP (fun m => m.2 = .notFound) = ms.length
  | [] => rfl
  | (_, fate) :: ms => by
    have ih := countP_fates ms
    cases fate <;> simp <;> omega

theorem notFound_merge : (merge stations c allow).notFound =
    (c.records.filter fun r => (stations.get? r.id).isNone).map Record.id := by
  simp only [merge, List.filter_map, List.map_map]
  have hid : Record.id ∘ Prod.fst ∘ mergeRecord stations allow = Record.id :=
    funext fun r => id_mergeRecord stations allow r
  have hfate : (fun m : Record × Fate => decide (m.2 = .notFound)) ∘ mergeRecord stations allow =
      fun r => (stations.get? r.id).isNone := funext fun r => decide_fate stations allow r .notFound
  rw [hfate]
  exact congrArg (List.map · _) hid

end Report

/-- **A merge follows the policy.** Every record is merged in its place. The ids that are not found
    are reported in catalog order, and the three counts are those of the records that are moved, of
    those that take the elevation alone and of those not found; an empty allow-list moves none. -/
theorem merge_policy (stations : Stations) (c : Catalog) (allow : Option AllowList)
    (h : ∀ r ∈ c.records, r.Accepted) :
    let m := merge stations c allow
    List.Forall₂ (Merged stations allow) c.records m.catalog.records ∧
      m.notFound = (c.records.filter fun r => (stations.get? r.id).isNone).map Record.id ∧
      m.summary.notFound = m.notFound.length ∧
      m.summary.fullUpdates = c.records.countP (fun r =>
        (stations.get? r.id).isSome && decide (Authorised allow r.id)) ∧
      m.summary.elevationOnly = c.records.countP (fun r =>
        (stations.get? r.id).isSome && !decide (Authorised allow r.id)) ∧
      m.summary.fullUpdates + m.summary.elevationOnly + m.summary.notFound = c.size ∧
      (allow = some .empty → m.summary.fullUpdates = 0) := by
  intro m
  have hfull : m.summary.fullUpdates = c.records.countP (fun r =>
      (stations.get? r.id).isSome && decide (Authorised allow r.id)) :=
    countP_fate stations c allow .full
  have hnotFound := notFound_merge stations c allow
  refine ⟨?_, hnotFound, ?_, hfull,
    countP_fate stations c allow .elevationOnly, ?_, ?_⟩
  · rw [records_merge, List.forall₂_map_right_iff, List.forall₂_same]
    intro r hr
    exact merged_mergeRecord stations allow (Record.accepted_iff_valid.1 (h r hr))
  · rw [hnotFound, List.length_map, ← List.countP_eq_length_filter]
    exact countP_fate stations c allow .notFound
  · have hsum := countP_fates (c.records.map (mergeRecord stations allow))
    rw [List.length_map] at hsum
    exact hsum
  · rintro rfl
    rw [hfull, List.countP_eq_zero]
    intro r _
    simp [not_authorised_empty r.id]

/-- A record of the required keys. -/
def bareRecord (id : String) : Record where
  id := id
  fields := [("id", .string id), ("type", .string "w"), ("lat", .null), ("lon", .null)]

theorem accepted_bareRecord (id : String) : (bareRecord id).Accepted := by
  refine Record.accepted_iff_valid.2 ⟨rfl, ?_, ?_⟩
  · intro key hkey
    rw [Fields.has_iff_mem_keys]
    simp only [requiredKeys, List.mem_cons, List.not_mem_nil, or_false] at hkey
    rcases hkey with rfl | rfl | rfl | rfl <;> simp [bareRecord, Fields.keys]
  · show ["id", "type", "lat", "lon"].Nodup
    decide

/-- The number of a numeral. -/
def decimal (text : String) : Numeric.Finite :=
  (Numeric.readFinite? text.toList).getD (.zero false)

example : (decimal "1.5").significand = 3 * 2 ^ 51 ∧ (decimal "1.5").exponent = -52 := by
  decide +kernel

/-- A station at a place. -/
def stationAt (id lat lon elevation : String) : Station where
  id := id
  lat := .finite (decimal lat)
  lon := .finite (decimal lon)
  elevation := some (.finite (decimal elevation))
  platform := none

/-- The place of a record: latitude, longitude and elevation. -/
def Record.place (r : Record) : List (Option Scalar) :=
  [r.get? "lat", r.get? "lon", r.get? "elevation"]

/-- A decimal number as a record holds it. -/
def decimalField (text : String) : Option Scalar := some (.number (.real (decimal text)))

/-- One station that may be moved, one that may not, and two records of one that is unknown. -/
theorem merge_policy_example :
    let stations := Stations.insertAll .empty
      [stationAt "A" "1.5" "-2.5" "100", stationAt "B" "3.5" "4.5" "200"]
    let m := merge stations ⟨["C", "A", "B", "C"].map bareRecord⟩ (some (.ofList ["A"]))
    m.notFound = ["C", "C"] ∧ m.summary.notFound = 2 ∧ m.summary.fullUpdates = 1 ∧
      m.summary.elevationOnly = 1 ∧
      m.catalog.records.map (fun r => (r.id, r.place)) =
        [("C", [some .null, some .null, some .null]),
          ("A", [decimalField "1.5", decimalField "-2.5", decimalField "100"]),
          ("B", [some .null, some .null, decimalField "200"]),
          ("C", [some .null, some .null, some .null])] := by
  intro stations m
  obtain ⟨hmerged, hnotFound, hmissing, hfull, helevation, _, _⟩ :=
    merge_policy stations ⟨["C", "A", "B", "C"].map bareRecord⟩ (some (.ofList ["A"])) (by
      intro r hr
      obtain ⟨id, _, rfl⟩ := List.mem_map.1 hr
      exact accepted_bareRecord id)
  have hget : ∀ id, stations.get? id = List.find? (fun s => decide (s.id = id))
      [stationAt "A" "1.5" "-2.5" "100", stationAt "B" "3.5" "4.5" "200"] :=
    Stations.get?_insertAll _
  have hallow : ∀ id, Authorised (some (.ofList ["A"])) id ↔ id = "A" := by
    intro id
    rw [← allows_iff, allows, AllowList.contains_ofList]
    simp
  have hids : m.notFound = ["C", "C"] := by
    rw [hnotFound]
    simp [hget, bareRecord, stationAt]
  -- what becomes of a record of each of the three ids
  have hunknown : ∀ r', Merged stations (some (.ofList ["A"])) (bareRecord "C") r' →
      r'.place = [some .null, some .null, some .null] := by
    intro r' h
    have hfields := h.unknown (by simp [hget, bareRecord, stationAt])
    have hkeys : "elevation" ∉ (bareRecord "C").keys := by decide
    rw [if_neg hkeys] at hfields
    simp only [Record.place, Record.get?, hfields]
    rfl
  have hmoved : ∀ r', Merged stations (some (.ofList ["A"])) (bareRecord "A") r' →
      r'.place = [decimalField "1.5", decimalField "-2.5", decimalField "100"] := by
    intro r' h
    obtain ⟨hlat, hlon, hraised, _⟩ := h.moved (stationAt "A" "1.5" "-2.5" "100")
      (by simp [hget, bareRecord, stationAt]) ((hallow _).2 rfl)
    rw [Record.place, hlat, hlon, hraised]
    rfl
  have hraised : ∀ r', Merged stations (some (.ofList ["A"])) (bareRecord "B") r' →
      r'.place = [some .null, some .null, decimalField "200"] := by
    intro r' h
    obtain ⟨hraised, hothers⟩ := h.raised (stationAt "B" "3.5" "4.5" "200")
      (by simp [hget, bareRecord, stationAt]) (fun ha => absurd ((hallow _).1 ha) (by decide))
    rw [Record.place, hraised, hothers "lat" (by decide), hothers "lon" (by decide)]
    rfl
  refine ⟨hids, ?_, ?_, ?_, ?_⟩
  · rw [hmissing, hids]
    rfl
  · rw [hfull]
    simp [hget, hallow, bareRecord, stationAt]
  · rw [helevation]
    simp [hget, hallow, bareRecord, stationAt]
  · generalize m.catalog.records = records at hmerged
    obtain _ | ⟨h₁, _ | ⟨h₂, _ | ⟨h₃, _ | ⟨h₄, ⟨⟩⟩⟩⟩⟩ := hmerged
    simp only [List.map_cons, List.map_nil, hunknown _ h₁, hmoved _ h₂, hraised _ h₃,
      hunknown _ h₄, h₁.id, h₂.id, h₃.id, h₄.id]
    rfl

end RadarCatalog.Catalog
