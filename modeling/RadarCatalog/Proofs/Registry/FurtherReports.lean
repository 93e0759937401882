import RadarCatalog.Proofs.Catalog.MergePolicy
import RadarCatalog.Proofs.Registry.Reduction

/-!
# Further reports behind the others

The reduction goes on from where it is: a report may append a station or raise a count, and it
changes nothing that is there. So whatever comes behind some reports cannot disturb what was made of
them.

* `Canonical.Extends` is what one report does to the stations and the counts, and what many do;
* `Canonical.Extends.get?`: a station that is found stays the one that is found;
* `canonicalize_of_further`: an error stays the error, and a result goes on, and with it a fresh
  catalog and a merge.
-/

namespace RadarCatalog.Registry

open RadarCatalog.Catalog

/-! ## 1. Adding to a result -/

/-- The second result goes on from the first: it has further stations behind those, and its counts
    are no lower. -/
structure Canonical.Extends (c c' : Canonical) : Prop where
  stations : c.stations.toList <+: c'.stations.toList
  duplicatesDropped : c.duplicatesDropped ≤ c'.duplicatesDropped
  unidentified : c.unidentified ≤ c'.unidentified

namespace Canonical

variable {c c' c'' : Canonical} {r : Ranking}

theorem Extends.refl (c : Canonical) : c.Extends c :=
  ⟨List.prefix_rfl, Nat.le_refl _, Nat.le_refl _⟩

theorem Extends.trans (h : c.Extends c') (h' : c'.Extends c'') : c.Extends c'' where
  stations := h.stations.trans h'.stations
  duplicatesDropped := Nat.le_trans h.duplicatesDropped h'.duplicatesDropped
  unidentified := Nat.le_trans h.unidentified h'.unidentified

/-- An insertion appends a station, or does nothing. -/
theorem toList_prefix_insert (s : Stations) (station : Station) :
    s.toList <+: (s.insert station).2.toList := by
  rw [Stations.toList_insert]
  by_cases h : s.contains station.id = true
  · rw [if_pos h]
  · rw [if_neg h]
    exact List.prefix_append _ _

/-- **One report more** extends the result. -/
theorem extends_add {report : StationReport × Nat} (h : c.add r report = .ok c') :
    c.Extends c' := by
  unfold add at h
  split at h
  · cases h
    exact ⟨List.prefix_rfl, Nat.le_refl _, Nat.le_succ _⟩
  · split at h
    · cases h
      exact ⟨List.prefix_rfl, Nat.le_succ _, Nat.le_refl _⟩
    · split at h
      · cases h
        exact ⟨toList_prefix_insert _ _, Nat.le_refl _, Nat.le_refl _⟩
      · cases h

/-- **Many reports more** extend it, one after the other. -/
theorem extends_foldlM : ∀ {reports : List (StationReport × Nat)} {c : Canonical},
    reports.foldlM (add r) c = .ok c' → c.Extends c'
  | [], c, h => by
    cases h
    exact Extends.refl _
  | report :: reports, c, h => by
    rw [List.foldlM_cons] at h
    obtain ⟨next, hnext, hrest⟩ := bind_eq_ok.1 h
    exact (extends_add hnext).trans (extends_foldlM hrest)

/-- **A station that is found** stays the one that is found. -/
theorem Extends.get? (h : c.Extends c') (hc : c.stations.Coherent) (hc' : c'.stations.Coherent)
    {id : String} (hid : c.stations.contains id = true) :
    c'.stations.get? id = c.stations.get? id := by
  obtain ⟨further, hfurther⟩ := h.stations
  obtain ⟨s, hs, hsid⟩ := List.mem_map.1 ((hc.contains_iff id).1 hid)
  have hfound : (c.stations.toList.find? fun x => x.id = id).isSome = true :=
    List.find?_isSome.2 ⟨s, hs, by simpa using hsid⟩
  rw [hc'.get?, hc.get?, ← hfurther, List.find?_append, Option.or_of_isSome hfound]

end Canonical

/-! ## 2. What is made of the stations -/

section Merge

variable {stations stations' : Stations}

/-- With more stations no further record is missing from them. -/
theorem notFound_sublist (h : ∀ id, stations'.get? id = none → stations.get? id = none)
    (previous : Catalog) (allow : Option AllowList) :
    (merge stations' previous allow).notFound.Sublist (merge stations previous allow).notFound := by
  rw [notFound_merge, notFound_merge]
  refine (List.monotone_filter_right _ ?_).map _
  intro r hr
  rw [Option.isNone_iff_eq_none] at hr ⊢
  exact h r.id hr

end Merge

/-- **Further reports disturb nothing.** An error of some reports is the error whatever comes behind
    them. If the reduction succeeds with further reports, it does so without them; the stations go
    on from those of the shorter list, every id of those keeps its station, and no count is lower.
    So a fresh catalog goes on in the same way, and of two merges the one with further stations
    leaves the same record wherever the id was known and reports no other id as missing. -/
theorem canonicalize_of_further (p : Policy) (first second : List StationReport) :
    (∀ e, canonicalize p first = .error e → canonicalize p (first ++ second) = .error e) ∧
      ∀ c', canonicalize p (first ++ second) = .ok c' → ∃ c, canonicalize p first = .ok c ∧
        c.stations.toList <+: c'.stations.toList ∧
        (∀ id ∈ c.stations.ids, c'.stations.get? id = c.stations.get? id) ∧
        c.duplicatesDropped ≤ c'.duplicatesDropped ∧ c.unidentified ≤ c'.unidentified ∧
        (∀ types, (fresh c.stations types).records <+: (fresh c'.stations types).records) ∧
        ∀ previous allow,
          (∀ (i : Nat) (r : Record), previous.records[i]? = some r → r.id ∈ c.stations.ids →
            (merge c'.stations previous allow).catalog.records[i]? =
              (merge c.stations previous allow).catalog.records[i]?) ∧
          (merge c'.stations previous allow).notFound.Sublist
            (merge c.stations previous allow).notFound := by
  rw [canonicalize_append_reports]
  constructor
  · intro e he
    rw [he]
    rfl
  · intro c' hc'
    obtain ⟨c, hc, hfurther⟩ := bind_eq_ok.1 hc'
    have hextends := Canonical.extends_foldlM hfurther
    have hcoherent := (reduces_of_canonicalize hc).coherent
    have hcoherent' : c'.stations.Coherent := by
      rw [← canonicalize_append_reports] at hc'
      exact (reduces_of_canonicalize hc').coherent
    have hget : ∀ id ∈ c.stations.ids, c'.stations.get? id = c.stations.get? id := fun id hid =>
      hextends.get? hcoherent hcoherent' ((hcoherent.contains_iff id).2 hid)
    refine ⟨c, hc, hextends.stations, hget, hextends.duplicatesDropped, hextends.unidentified,
      fun types => hextends.stations.map _, ?_⟩
    intro previous allow
    constructor
    · intro i r hr hid
      rw [records_merge, records_merge, List.getElem?_map, List.getElem?_map, hr, Option.map_some,
        Option.map_some, mergeRecord_congr (hget r.id hid)]
    · refine notFound_sublist ?_ previous allow
      intro id hnone
      by_cases hid : id ∈ c.stations.ids
      · rw [← hget id hid]
        exact hnone
      · rw [hcoherent.get?, List.find?_eq_none]
        intro s hs hsid
        rw [← of_decide_eq_true hsid] at hid
        exact hid (List.mem_map_of_mem hs)

end RadarCatalog.Registry
