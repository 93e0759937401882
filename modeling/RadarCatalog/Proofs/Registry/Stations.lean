import RadarCatalog.Proofs.Fields
import RadarCatalog.Registry.Canonical

/-!
# Stations and their index

The entries are the truth and the index follows them: `Coherent` says that the index leads from an
id to the one entry with this id. It holds of no stations and is kept by every insertion.

* `Coherent.get?`: a look-up is a search through the entries;
* `get?_insertAll`: of some stations the first one with an id is found under it;
* `Coherent.nodup_ids`, `ids_insertAll`: no id has two entries, and the ids stand in the order in
  which they were first inserted.
-/

namespace RadarCatalog.Registry.Stations

/-! ## 1. Coherence -/

/-- The index leads from an id to a position exactly when the entry there has this id. -/
structure Coherent (s : Stations) : Prop where
  index : ∀ (id : String) (i : Nat),
    s.index[id]? = some i ↔ ∃ station, s.entries[i]? = some station ∧ station.id = id

theorem coherent_empty : empty.Coherent where
  index := by
    intro id i
    have hindex : empty.index[id]? = none := Std.HashMap.getElem?_empty
    constructor
    · intro h
      rw [hindex] at h
      cases h
    · intro h
      obtain ⟨station, hstation, _⟩ := h
      simp [empty] at hstation

section Coherent

variable {s : Stations} (h : s.Coherent)
include h

/-- An id is taken exactly when some entry has it. -/
theorem Coherent.contains_iff (id : String) : s.contains id = true ↔ id ∈ s.ids := by
  rw [contains, Std.HashMap.contains_eq_isSome_getElem?, Option.isSome_iff_exists, ids, toList,
    List.mem_map]
  constructor
  · intro hsome
    obtain ⟨i, hi⟩ := hsome
    obtain ⟨station, hstation, hid⟩ := (h.index id i).1 hi
    exact ⟨station, Array.mem_toList_iff.2 (Array.mem_of_getElem? hstation), hid⟩
  · intro hmem
    obtain ⟨station, hstation, hid⟩ := hmem
    obtain ⟨i, hi⟩ := Array.mem_iff_getElem?.1 (Array.mem_toList_iff.1 hstation)
    exact ⟨i, (h.index id i).2 ⟨station, hi, hid⟩⟩

/-- **A look-up is a search** through the entries. -/
theorem Coherent.get? (id : String) : s.get? id = s.toList.find? fun x => x.id = id := by
  cases hi : s.index[id]? with
  | none =>
    rw [Stations.get?, hi]
    refine (List.find?_eq_none.2 ?_).symm
    intro x hx
    have hnot : s.contains id = false := by
      rw [contains, Std.HashMap.contains_eq_isSome_getElem?, hi]
      rfl
    have hid : id ∉ s.ids := fun hm => by simp [(h.contains_iff id).2 hm] at hnot
    have hne : x.id ≠ id := fun e => hid (e ▸ List.mem_map_of_mem hx)
    simpa using hne
  | some i =>
    obtain ⟨station, hstation, hid⟩ := (h.index id i).1 hi
    have hget : s.get? id = some station := by
      rw [Stations.get?, hi]
      exact hstation
    rw [hget]
    -- every entry with this id stands at the position that the index gives
    have honly : ∀ x ∈ s.toList, x.id = id → x = station := by
      intro x hx hxid
      obtain ⟨j, hj⟩ := Array.mem_iff_getElem?.1 (Array.mem_toList_iff.1 hx)
      have hindex := (h.index id j).2 ⟨x, hj, hxid⟩
      rw [hi] at hindex
      cases hindex
      rw [hstation] at hj
      exact (Option.some.inj hj).symm
    cases hfind : s.toList.find? fun x => x.id = id with
    | none =>
      have hmem := Array.mem_toList_iff.2 (Array.mem_of_getElem? hstation)
      exact absurd hid (by simpa using List.find?_eq_none.1 hfind station hmem)
    | some x =>
      have hx : x.id = id := by simpa using List.find?_some hfind
      rw [honly x (List.mem_of_find?_eq_some hfind) hx]

/-- Every entry is found under its id. -/
theorem Coherent.get?_of_mem {station : Station} (hs : station ∈ s.toList) :
    s.get? station.id = some station := by
  obtain ⟨i, hi⟩ := Array.mem_iff_getElem?.1 (Array.mem_toList_iff.1 hs)
  have hindex := (h.index station.id i).2 ⟨station, hi, rfl⟩
  rw [Stations.get?, hindex]
  exact hi

/-- **An insertion keeps the index coherent.** -/
theorem Coherent.insert (station : Station) : (s.insert station).2.Coherent where
  index := by
    intro id i
    by_cases hc : s.contains station.id = true
    · rw [Stations.insert, if_pos hc]
      exact h.index id i
    · have hfree : s.index[station.id]? = none := by
        rw [contains, Std.HashMap.contains_eq_isSome_getElem?] at hc
        exact Option.not_isSome_iff_eq_none.1 hc
      have hinsert : (s.insert station).2 =
          ⟨s.entries.push station, s.index.insert station.id s.entries.size⟩ := by
        rw [Stations.insert, if_neg hc]
      rw [hinsert, Std.HashMap.getElem?_insert, Array.getElem?_push]
      simp only [beq_iff_eq]
      by_cases hid : station.id = id
      · subst hid
        rw [if_pos rfl]
        constructor
        · intro hi
          cases hi
          exact ⟨station, if_pos rfl, rfl⟩
        · intro hx
          obtain ⟨x, hx, hxid⟩ := hx
          split at hx
          · rename_i hlast
            exact congrArg some hlast.symm
          · have hindex := (h.index station.id i).2 ⟨x, hx, hxid⟩
            rw [hfree] at hindex
            cases hindex
      · rw [if_neg hid, h.index id i]
        constructor
        · intro hx
          obtain ⟨x, hx, hxid⟩ := hx
          have hi : i ≠ s.entries.size := by
            rintro rfl
            simp at hx
          exact ⟨x, by rw [if_neg hi, hx], hxid⟩
        · intro hx
          obtain ⟨x, hx, hxid⟩ := hx
          split at hx
          · cases hx
            exact absurd hxid hid
          · exact ⟨x, hx, hxid⟩

/-- **No id has two entries.** The index leads from an id to one position alone. -/
theorem Coherent.nodup_ids : s.ids.Nodup := by
  rw [ids, List.Nodup, List.pairwise_map, List.pairwise_iff_getElem]
  intro i j hi hj hlt heq
  have hindex : ∀ (k : Nat) (hk : k < s.toList.length), s.index[s.toList[k].id]? = some k := by
    intro k hk
    have hentry : s.entries[k]? = some s.toList[k] := by
      rw [← Array.getElem?_toList]
      exact List.getElem?_eq_getElem hk
    exact (h.index _ k).2 ⟨_, hentry, rfl⟩
  have hearlier := hindex i hi
  rw [heq, hindex j hj] at hearlier
  exact absurd (Option.some.inj hearlier).symm (Nat.ne_of_lt hlt)

/-- A look-up after an insertion: the new station answers for an id that was free. -/
theorem Coherent.get?_insert (station : Station) (id : String) : (s.insert station).2.get? id =
    (s.get? id).or (if station.id = id then some station else none) := by
  rw [(h.insert station).get?, h.get?, toList_insert]
  by_cases hc : s.contains station.id = true
  · rw [if_pos hc]
    by_cases hid : station.id = id
    · obtain ⟨x, hx, hxid⟩ := List.mem_map.1 ((h.contains_iff station.id).1 hc)
      have hsome : (s.toList.find? fun x => x.id = id).isSome = true := by
        rw [List.find?_isSome]
        exact ⟨x, hx, by simp [hxid, hid]⟩
      obtain ⟨y, hy⟩ := Option.isSome_iff_exists.1 hsome
      rw [hy, Option.some_or]
    · rw [if_neg hid, Option.or_none]
  · rw [if_neg hc, List.find?_append, List.find?_cons, List.find?_nil]
    by_cases hid : station.id = id
    · simp [hid]
    · simp [hid]

end Coherent

/-! ## 2. Some insertions -/

theorem Coherent.get?_insertAll : ∀ (stations : List Station) {s : Stations}, s.Coherent →
    ∀ id, (s.insertAll stations).get? id = (s.get? id).or (stations.find? fun x => x.id = id)
  | [], s, _, id => by
    rw [insertAll, List.foldl_nil, List.find?_nil, Option.or_none]
  | station :: stations, s, h, id => by
    have hrest := Coherent.get?_insertAll stations (h.insert station) id
    rw [h.get?_insert] at hrest
    rw [insertAll, List.foldl_cons, ← insertAll, hrest, Option.or_assoc, List.find?_cons]
    by_cases hid : station.id = id
    · simp [hid]
    · simp [hid]

/-- **Of some stations** the first one with an id is found under it. -/
theorem get?_insertAll (stations : List Station) (id : String) :
    (empty.insertAll stations).get? id = stations.find? fun x => x.id = id := by
  have hnone : empty.get? id = none := by
    have hindex : empty.index[id]? = none := Std.HashMap.getElem?_empty
    rw [Stations.get?, hindex]
    rfl
  rw [Coherent.get?_insertAll stations coherent_empty, hnone, Option.none_or]

theorem insertAll_concat (s : Stations) (stations : List Station) (station : Station) :
    s.insertAll (stations ++ [station]) = ((s.insertAll stations).insert station).2 := by
  rw [insertAll, List.foldl_append, List.foldl_cons, List.foldl_nil, ← insertAll]

theorem coherent_insertAll (stations : List Station) : (empty.insertAll stations).Coherent := by
  induction stations using List.reverseRecOn with
  | nil => exact coherent_empty
  | append_singleton stations station ih =>
    rw [insertAll_concat]
    exact ih.insert station

/-- **The ids of some stations** stand in the order of their first appearance. -/
theorem ids_insertAll (stations : List Station) :
    (empty.insertAll stations).ids = (stations.map Station.id).eraseDups := by
  induction stations using List.reverseRecOn with
  | nil => rfl
  | append_singleton stations station ih =>
    have hcontains : (empty.insertAll stations).contains station.id = true ↔
        station.id ∈ stations.map Station.id := by
      rw [(coherent_insertAll stations).contains_iff, ih, List.mem_eraseDups]
    rw [insertAll_concat, ids, toList_insert, List.map_append, List.map_singleton, eraseDups_concat,
      ← ih]
    by_cases hc : (empty.insertAll stations).contains station.id = true
    · rw [if_pos hc, if_pos (hcontains.1 hc)]
      rfl
    · rw [if_neg hc, if_neg fun hm => hc (hcontains.2 hm), List.map_append, List.map_singleton]
      rfl

end RadarCatalog.Registry.Stations
