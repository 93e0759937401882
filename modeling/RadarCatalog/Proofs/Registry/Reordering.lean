import RadarCatalog.Proofs.Catalog.Merging
import RadarCatalog.Proofs.Registry.Reduction

/-!
# Reports in another order

The reduction goes through the reports in order and keeps the first one of each id. So two orders
with the same first report for each id give the same stations, though perhaps in another order, and
a merge, which looks stations up by their ids, gives the same catalog.

* `mem_firstReports_iff`, `find?_of_mem_firstReports`: a first report of its id is the one that a
  search for the id finds;
* `Reduces.get?_of_find?`: a look-up finds the station of that report, and nothing else;
* `canonicalize_reordered`: an order in which the reports of one id stay in order changes nothing.
-/

namespace RadarCatalog.Registry

/-! ## 1. The first report of an id -/

/-- The first report of an id. -/
def Policy.reportOf (p : Policy) (id : String) (reports : List StationReport) :
    Option StationReport :=
  reports.find? fun r => p.idOf r = some id

section First

variable {p : Policy} {reports : List StationReport} {id : String}

theorem mem_firstReports_iff {r : StationReport × Nat} : r ∈ firstReports p reports ↔
    reports[r.2]? = some r.1 ∧ p.isFirst (reports.take r.2) r.1 = true := by
  rw [firstReports, List.mem_filter, List.mem_zipIdx_iff_getElem?]

/-- A report without an id is not the first of one. -/
theorem exists_id_of_mem_firstReports {r : StationReport × Nat} (hr : r ∈ firstReports p reports) :
    ∃ id, p.idOf r.1 = some id := by
  have hfirst := (mem_firstReports_iff.1 hr).2
  cases hid : p.idOf r.1 with
  | none =>
    rw [isFirst_of_none hid] at hfirst
    cases hfirst
  | some id => exact ⟨id, rfl⟩

/-- **A first report of its id** is the one that is found under the id. -/
theorem find?_of_mem_firstReports {r : StationReport × Nat} (hr : r ∈ firstReports p reports)
    (hid : p.idOf r.1 = some id) : p.reportOf id reports = some r.1 := by
  obtain ⟨hget, hfirst⟩ := mem_firstReports_iff.1 hr
  obtain ⟨hlt, hreport⟩ := List.getElem?_eq_some_iff.1 hget
  have hsplit : reports = reports.take r.2 ++ r.1 :: reports.drop (r.2 + 1) := by
    rw [← hreport, ← List.drop_eq_getElem_cons hlt, List.take_append_drop]
  rw [Policy.isFirst, hid, Option.any_some] at hfirst
  refine List.find?_eq_some_iff_append.2 ⟨by simpa using hid, _, _, hsplit, ?_⟩
  intro earlier hearlier
  have hne := List.all_eq_true.1 hfirst earlier hearlier
  simpa using hne

/-- The report that is found under an id is a first report. -/
theorem exists_mem_firstReports {report : StationReport}
    (h : p.reportOf id reports = some report) : ∃ r ∈ firstReports p reports, r.1 = report := by
  obtain ⟨hid, earlier, later, hsplit, hearlier⟩ := List.find?_eq_some_iff_append.1 h
  have hid : p.idOf report = some id := by simpa using hid
  refine ⟨(report, earlier.length), mem_firstReports_iff.2 ⟨?_, ?_⟩, rfl⟩
  · rw [hsplit, List.getElem?_append_right (Nat.le_refl _), Nat.sub_self, List.getElem?_cons_zero]
  · rw [hsplit, List.take_left, Policy.isFirst, hid, Option.any_some, List.all_eq_true]
    intro r hr
    simpa using hearlier r hr

/-- **The reduction succeeds** when the first report of every id is readable. -/
theorem canonicalize_succeeds_iff : (∃ c, canonicalize p reports = .ok c) ↔
    ∀ id report, p.reportOf id reports = some report → Readable p report := by
  constructor
  · intro h id report hfind
    obtain ⟨c, hc⟩ := h
    obtain ⟨r, hr, rfl⟩ := exists_mem_firstReports hfind
    obtain ⟨id', hid'⟩ := exists_id_of_mem_firstReports hr
    rcases canonicalize_cases p reports with ⟨_, _, _, hnone⟩ | ⟨e, he, _⟩
    · exact (readable_iff hid').2 (List.findSome?_eq_none_iff.1 hnone r hr)
    · rw [hc] at he
      cases he
  · intro hall
    refine exists_canonicalize (List.findSome?_eq_none_iff.2 ?_)
    intro r hr
    obtain ⟨id, hid⟩ := exists_id_of_mem_firstReports hr
    exact (readable_iff hid).1 (hall id r.1 (find?_of_mem_firstReports hr hid))

/-! ## 2. The station of an id -/

/-- What is made of an optional value in one way is one. -/
theorem eq_of_made {α β : Type} {o : Option α} {f : α → β} {b b' : β}
    (h : ∃ a, o = some a ∧ b = f a) (h' : ∃ a, o = some a ∧ b' = f a) : b = b' := by
  obtain ⟨a, ha, rfl⟩ := h
  obtain ⟨a', ha', rfl⟩ := h'
  rw [ha] at ha'
  rw [Option.some.inj ha']

/-- **A report has one station.** -/
theorem Taken.unique {report : StationReport} {s s' : Station} (h : Taken p report s)
    (h' : Taken p report s') : s = s' := by
  obtain ⟨id, lat, lon, elevation, platform⟩ := s
  obtain ⟨id', lat', lon', elevation', platform'⟩ := s'
  have hid : id = id' := Option.some.inj (h.id.symm.trans h'.id)
  have hlat : lat = lat' := eq_of_made h.lat h'.lat
  have hlon : lon = lon' := eq_of_made h.lon h'.lon
  have helevation : elevation = elevation' := by
    cases hentry : p.elevationOf report with
    | none => exact (h.unknown hentry).trans (h'.unknown hentry).symm
    | some entry => exact eq_of_made (h.elevation entry hentry) (h'.elevation entry hentry)
  have hplatform : platform = platform' := h.platform.trans h'.platform.symm
  rw [hid, hlat, hlon, helevation, hplatform]

theorem Taken.readable {report : StationReport} {s : Station} (h : Taken p report s) :
    Readable p report where
  latitude := by
    obtain ⟨x, hx, _⟩ := h.lat
    rw [hx, Option.isSome_some]
  longitude := by
    obtain ⟨x, hx, _⟩ := h.lon
    rw [hx, Option.isSome_some]
  elevation := by
    intro entry hentry
    obtain ⟨x, hx, _⟩ := h.elevation entry hentry
    rw [hx, Option.isSome_some]

/-- **Stations that are taken from the first reports** are those that the reduction ends with. -/
theorem exists_canonicalize_of_taken {stations : List Station}
    (h : List.Forall₂ (fun r s => Taken p r.1 s) (firstReports p reports) stations) :
    ∃ c, canonicalize p reports = .ok c ∧ c.stations.Coherent ∧ c.stations.toList = stations := by
  have hfault : (firstReports p reports).findSome? (faultOf p) = none := by
    refine List.findSome?_eq_none_iff.2 ?_
    intro r hr
    obtain ⟨s, htaken⟩ := exists_of_forall₂ h r hr
    exact (readable_iff htaken.id).1 htaken.readable
  obtain ⟨c, hc⟩ := exists_canonicalize hfault
  have hreduces := reduces_of_canonicalize hc
  have hunique : Relator.RightUnique fun (r : StationReport × Nat) s => Taken p r.1 s :=
    fun _ _ _ hs hs' => hs.unique hs'
  exact ⟨c, hc, hreduces.coherent, hunique.forall₂ hreduces.stations h⟩

/-- What belongs to an optional value is one, or none. -/
theorem eq_of_rel {α β : Type} {R : α → β → Prop}
    (hunique : ∀ {a : α} {b b' : β}, R a b → R a b' → b = b') {o : Option α} {x y : Option β}
    (hx : Option.Rel R o x) (hy : Option.Rel R o y) : x = y := by
  cases hx with
  | none =>
    cases hy with
    | none => rfl
  | some h =>
    cases hy with
    | some h' => rw [hunique h h']

variable {c : Canonical} (h : Reduces p reports c)
include h

/-- A station that is found is that of the first report of its id. -/
theorem Reduces.exists_reportOf {s : Station} (hs : c.stations.get? id = some s) :
    ∃ report, p.reportOf id reports = some report ∧ Taken p report s := by
  rw [h.coherent.get?] at hs
  have hid : s.id = id := by simpa using List.find?_some hs
  obtain ⟨r, hr, htaken⟩ := h.exists_taken (List.mem_of_find?_eq_some hs)
  exact ⟨r.1, find?_of_mem_firstReports hr (hid ▸ htaken.id), htaken⟩

/-- **A look-up** finds the station of the first report of the id, and nothing if there is none. -/
theorem Reduces.get?_of_find? : Option.Rel (Taken p) (p.reportOf id reports)
    (c.stations.get? id) := by
  cases hs : c.stations.get? id with
  | some s =>
    obtain ⟨report, hreport, htaken⟩ := h.exists_reportOf hs
    rw [hreport]
    exact .some htaken
  | none =>
    have hunknown : ¬ ∃ r ∈ reports, p.idOf r = some id := by
      rw [← h.known, h.coherent.contains_iff, Stations.ids, List.mem_map]
      intro hmem
      obtain ⟨s, hs', hid⟩ := hmem
      rw [h.coherent.get?] at hs
      have hne := List.find?_eq_none.1 hs s hs'
      exact hne (by simpa using hid)
    have hnone : p.reportOf id reports = none := by
      rw [Policy.reportOf, List.find?_eq_none]
      intro r hr hid
      exact hunknown ⟨r, hr, by simpa using hid⟩
    rw [hnone]
    exact .none

end First

/-! ## 3. Two orders -/

/-- The second list has the reports of the first one in another order, in which those of one id
    stay in order. -/
structure Reordered (p : Policy) (reports reports' : List StationReport) : Prop where
  perm : reports.Perm reports'
  inOrder : ∀ id, (reports.filter fun r => (Ranking.ofPolicy p).idOf r = some id) =
    reports'.filter fun r => (Ranking.ofPolicy p).idOf r = some id

section Reordered

variable {p : Policy} {reports reports' : List StationReport} (h : Reordered p reports reports')
include h

/-- The first report of an id stays the same. -/
theorem Reordered.reportOf (id : String) : p.reportOf id reports' = p.reportOf id reports := by
  have horder := congrArg List.head? (h.inOrder id)
  simp only [List.head?_filter, idOf_ofPolicy] at horder
  exact horder.symm

variable {c c' : Canonical} (hc : Reduces p reports c) (hc' : Reduces p reports' c')
include hc hc'

/-- Every id has the same station, or none. -/
theorem Reordered.get? (id : String) : c'.stations.get? id = c.stations.get? id := by
  have hfirst : Option.Rel (Taken p) (p.reportOf id reports) (c.stations.get? id) :=
    hc.get?_of_find?
  have hsecond : Option.Rel (Taken p) (p.reportOf id reports') (c'.stations.get? id) :=
    hc'.get?_of_find?
  rw [h.reportOf id] at hsecond
  exact eq_of_rel (fun htaken htaken' => htaken.unique htaken') hsecond hfirst

/-- As many reports give no station for want of an id. -/
theorem Reordered.unidentified : c'.unidentified = c.unidentified := by
  rw [hc.unidentified, hc'.unidentified]
  exact (h.perm.countP_eq _).symm

/-- The same ids are taken, so there are as many stations. -/
theorem Reordered.size : c'.stations.size = c.stations.size := by
  have hmem : ∀ id, id ∈ c'.stations.ids ↔ id ∈ c.stations.ids := by
    intro id
    rw [← hc'.coherent.contains_iff, ← hc.coherent.contains_iff, hc.known, hc'.known]
    simp only [h.perm.mem_iff]
  have hperm : c'.stations.ids.Perm c.stations.ids :=
    (List.perm_ext_iff_of_nodup hc'.coherent.nodup_ids hc.coherent.nodup_ids).2 hmem
  have hlength : ∀ s : Stations, s.ids.length = s.size := by
    intro s
    rw [Stations.ids, List.length_map, Stations.toList, Array.length_toList, Stations.size]
  rw [← hlength, ← hlength, hperm.length_eq]

/-- All other reports are duplicates. -/
theorem Reordered.duplicatesDropped : c'.duplicatesDropped = c.duplicatesDropped := by
  have hsize := h.size hc hc'
  have hunidentified := h.unidentified hc hc'
  have hlength := h.perm.length_eq
  have htotal := hc.total
  have htotal' := hc'.total
  omega

end Reordered

section Orders

variable {p : Policy} {reports reports' : List StationReport}

/-- **An order in which the reports of one id stay in order changes nothing**: the reduction
    succeeds or fails as before, and where it succeeds, every id has the same station or none, the
    counts are the same, and so is what a merge gives. -/
theorem canonicalize_reordered (h : Reordered p reports reports') :
    ((∃ c, canonicalize p reports = .ok c) ↔ ∃ c', canonicalize p reports' = .ok c') ∧
      ∀ c c', canonicalize p reports = .ok c → canonicalize p reports' = .ok c' →
        (∀ id, c'.stations.get? id = c.stations.get? id) ∧
          c'.duplicatesDropped = c.duplicatesDropped ∧ c'.unidentified = c.unidentified ∧
          ∀ previous allow, Catalog.merge c'.stations previous allow =
            Catalog.merge c.stations previous allow := by
  constructor
  · rw [canonicalize_succeeds_iff, canonicalize_succeeds_iff]
    simp only [h.reportOf]
  · intro c c' hc hc'
    have hreduces := reduces_of_canonicalize hc
    have hreduces' := reduces_of_canonicalize hc'
    have hget := h.get? hreduces hreduces'
    exact ⟨hget, h.duplicatesDropped hreduces hreduces', h.unidentified hreduces hreduces',
      Catalog.merge_congr hget⟩

/-- Two radars, the second of them reported twice, and a report without an id. -/
def exampleReports : List StationReport :=
  [⟨[⟨"NEXRAD", "KABC"⟩], [], "1.5", "2.5", []⟩, ⟨[⟨"NEXRAD", "KXYZ"⟩], [], "3", "4", []⟩,
    ⟨[⟨"NEXRAD", "KXYZ"⟩], [], "5", "6", []⟩, ⟨[], [], "7", "8", []⟩]

/-- The same reports, the first one behind the others. -/
def reorderedReports : List StationReport :=
  [⟨[⟨"NEXRAD", "KXYZ"⟩], [], "3", "4", []⟩, ⟨[⟨"NEXRAD", "KXYZ"⟩], [], "5", "6", []⟩,
    ⟨[], [], "7", "8", []⟩, ⟨[⟨"NEXRAD", "KABC"⟩], [], "1.5", "2.5", []⟩]

theorem reordered_example : Reordered .standard exampleReports reorderedReports where
  perm := (List.perm_append_singleton _ _).symm
  inOrder := by
    have hids : exampleReports.map (Policy.standard.idOf) =
        [some "KABC", some "KXYZ", some "KXYZ", none] := by decide +kernel
    intro id
    simp only [idOf_ofPolicy]
    simp only [exampleReports, List.map_cons, List.map_nil, List.cons.injEq] at hids
    obtain ⟨habc, hxyz, hxyz', hnone, _⟩ := hids
    simp only [exampleReports, reorderedReports, List.filter_cons, List.filter_nil, habc, hxyz,
      hxyz', hnone]
    by_cases h : id = "KABC"
    · subst h
      rfl
    · have hne : ¬ some "KABC" = some id := fun heq => h (Option.some.inj heq).symm
      simp only [hne, decide_false, Bool.false_eq_true, if_false]

/-- Of these orders, both succeed, and they give the same. -/
theorem canonicalize_reordered_example : Reordered .standard exampleReports reorderedReports ∧
    ∃ c c', canonicalize .standard exampleReports = .ok c ∧
      canonicalize .standard reorderedReports = .ok c' ∧
      (∀ id, c'.stations.get? id = c.stations.get? id) ∧
      c'.duplicatesDropped = c.duplicatesDropped ∧ c'.unidentified = c.unidentified ∧
      ∀ previous allow, Catalog.merge c'.stations previous allow =
        Catalog.merge c.stations previous allow := by
  obtain ⟨hiff, hsame⟩ := canonicalize_reordered reordered_example
  have hfault : (firstReports .standard exampleReports).findSome? (faultOf .standard) = none := by
    decide +kernel
  obtain ⟨c, hc⟩ := exists_canonicalize hfault
  obtain ⟨c', hc'⟩ := hiff.1 ⟨c, hc⟩
  exact ⟨reordered_example, c, c', hc, hc', hsame c c' hc hc'⟩

end Orders

end RadarCatalog.Registry
