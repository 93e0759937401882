import RadarCatalog.Proofs.Catalog.Merging

/-!
# Merges one after the other

What a record holds after any number of merges, each with stations and an allow-list of its own.

* The position comes from the last merge that knew the station and might move it (`lastMover`), the
  elevation from the last merge that knew the station (`lastKnown`), whether it might move it or
  not.
* Everything else is as it was. `Settled` says all this of one record, `settled_mergeAll` of a
  catalog. A finite number is put down as it is (`Scalar.ofBinary64_finite`), and any other as null.
-/

namespace RadarCatalog.Catalog

open RadarCatalog.Json RadarCatalog.Registry

/-! ## 1. The closed form -/

/-- What a merge goes by, besides the catalog. -/
structure Sources where
  stations : Stations
  allow : Option AllowList

/-- Merges in order. -/
def mergeAll : Catalog → List Sources → Catalog
  | c, [] => c
  | c, s :: ss => mergeAll (merge s.stations c s.allow).catalog ss

/-- The station that the last merge to move an id moved it to. -/
def lastMover (id : String) (ss : List Sources) : Option Station :=
  ss.reverse.findSome? fun s => mover s.stations s.allow id

/-- The station of the last merge that knew an id. -/
def lastKnown (id : String) (ss : List Sources) : Option Station :=
  ss.reverse.findSome? fun s => s.stations.get? id

/-- The second record is what some merges, one after the other, make of the first. -/
structure Settled (ss : List Sources) (r r' : Record) : Prop where
  id : r'.id = r.id
  keys : r'.keys = withElevation r.keys
  lat : r'.get? "lat" = match lastMover r.id ss with
    | some s => some (.ofBinary64 s.lat)
    | none => r.get? "lat"
  lon : r'.get? "lon" = match lastMover r.id ss with
    | some s => some (.ofBinary64 s.lon)
    | none => r.get? "lon"
  elevation : r'.get? "elevation" = some (match lastKnown r.id ss with
    | some s => Record.elevationValue s.elevation
    | none => (r.get? "elevation").getD .null)
  others : ∀ key, key ∉ ["lat", "lon", "elevation"] → r'.get? key = r.get? key

/-! ## 2. One merge more -/

theorem findSome?_reverse_cons {α β : Type} (f : α → Option β) (a : α) (as : List α) :
    (a :: as).reverse.findSome? f = (as.reverse.findSome? f).or (f a) := by
  rw [List.reverse_cons, List.findSome?_append]
  cases h : f a with
  | none => simp [h]
  | some b => simp [h]

theorem withElevation_withElevation (keys : List String) :
    withElevation (withElevation keys) = withElevation keys := by
  have hmem : "elevation" ∈ withElevation keys := by
    unfold withElevation
    split
    · assumption
    · exact List.mem_append_right _ (List.mem_singleton_self _)
  exact if_pos hmem

/-- A single merge. -/
theorem settled_single (s : Sources) {r : Record} (h : r.Valid) :
    Settled [s] r (mergeRecord s.stations s.allow r).1 where
  id := id_mergeRecord _ _ r
  keys := keys_mergeRecord _ _ h
  lat := by
    rw [get?_mergeRecord _ _ r "lat" (by decide), lastMover, findSome?_reverse_cons]
    cases mover s.stations s.allow r.id with
    | none => rfl
    | some s =>
      show (r.setPosition s.lat s.lon).get? "lat" = some (.ofBinary64 s.lat)
      rw [Record.get?_setPosition, if_neg (by decide), if_pos rfl]
  lon := by
    rw [get?_mergeRecord _ _ r "lon" (by decide), lastMover, findSome?_reverse_cons]
    cases mover s.stations s.allow r.id with
    | none => rfl
    | some s =>
      show (r.setPosition s.lat s.lon).get? "lon" = some (.ofBinary64 s.lon)
      rw [Record.get?_setPosition, if_pos rfl]
  elevation := by
    rw [elevation_mergeRecord, lastKnown, findSome?_reverse_cons]
    rfl
  others := by
    intro key hkey
    simp only [List.mem_cons, List.not_mem_nil, or_false, not_or] at hkey
    obtain ⟨hlat, hlon, helevation⟩ := hkey
    rw [get?_mergeRecord _ _ r key helevation]
    cases mover s.stations s.allow r.id with
    | none => rfl
    | some s =>
      show (r.setPosition s.lat s.lon).get? key = r.get? key
      rw [Record.get?_setPosition, if_neg (Ne.symm hlon), if_neg (Ne.symm hlat)]

/-- **One merge, then some more.** What the later ones do not decide is as the first one left it. -/
theorem Settled.cons {s : Sources} {ss : List Sources} {r r' r'' : Record} (h : Settled [s] r r')
    (h' : Settled ss r' r'') : Settled (s :: ss) r r'' where
  id := h'.id.trans h.id
  keys := by rw [h'.keys, h.keys, withElevation_withElevation]
  lat := by
    have hl := h.lat
    rw [h'.lat, h.id, lastMover, lastMover, findSome?_reverse_cons]
    rw [lastMover, findSome?_reverse_cons] at hl
    cases ss.reverse.findSome? fun s => mover s.stations s.allow r.id with
    | none => exact hl
    | some s => rfl
  lon := by
    have hl := h.lon
    rw [h'.lon, h.id, lastMover, lastMover, findSome?_reverse_cons]
    rw [lastMover, findSome?_reverse_cons] at hl
    cases ss.reverse.findSome? fun s => mover s.stations s.allow r.id with
    | none => exact hl
    | some s => rfl
  elevation := by
    have he := h.elevation
    rw [h'.elevation, h.id, lastKnown, lastKnown, findSome?_reverse_cons]
    rw [lastKnown, findSome?_reverse_cons] at he
    cases ss.reverse.findSome? fun s => s.stations.get? r.id with
    | none =>
      rw [he]
      rfl
    | some s => rfl
  others key hkey := (h'.others key hkey).trans (h.others key hkey)

/-! ## 3. All records -/

/-- **The closed form of any history of merges**, record by record. -/
theorem settled_mergeAll : ∀ (ss : List Sources) {c : Catalog}, c.Valid → ss ≠ [] →
    List.Forall₂ (Settled ss) c.records (mergeAll c ss).records
  | [], _, _, hne => absurd rfl hne
  | [s], c, h, _ => by
    rw [mergeAll, mergeAll, records_merge, List.forall₂_map_right_iff, List.forall₂_same]
    exact fun r hr => settled_single s (h r hr)
  | s :: s' :: ss, c, h, _ => by
    have hrest := settled_mergeAll (s' :: ss) (valid_merge h s.stations s.allow)
      (List.cons_ne_nil _ _)
    rw [records_merge, List.forall₂_map_left_iff] at hrest
    rw [mergeAll]
    rw [List.forall₂_iff_zip] at hrest ⊢
    refine ⟨hrest.1, ?_⟩
    intro r r'' hzip
    have hr : r ∈ c.records := (List.of_mem_zip hzip).1
    exact (settled_single s (h r hr)).cons (hrest.2 hzip)

theorem valid_mergeAll {c : Catalog} (h : c.Valid) (ss : List Sources) : (mergeAll c ss).Valid := by
  induction ss generalizing c with
  | nil => exact h
  | cons s ss ih => exact ih (valid_merge h s.stations s.allow)

/-- The records keep their ids and their order. -/
theorem ids_mergeAll {ss : List Sources} {c c' : Catalog}
    (h : List.Forall₂ (Settled ss) c.records c'.records) : c'.ids = c.ids := by
  have hids : ∀ {rs rs' : List Record}, List.Forall₂ (Settled ss) rs rs' →
      rs'.map Record.id = rs.map Record.id := by
    intro rs rs' h
    induction h with
    | nil => rfl
    | cons hr _ ih => rw [List.map_cons, List.map_cons, hr.id, ih]
  exact hids h

end RadarCatalog.Catalog
