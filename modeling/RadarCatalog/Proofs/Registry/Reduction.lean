import Mathlib.Data.List.Forall2
import Mathlib.Data.List.Induction
import RadarCatalog.Proofs.Registry.Selection
import RadarCatalog.Proofs.Registry.Stations

/-!
# What the reduction to canonical stations gives

The reduction is one loop with two counters and an early end. Said without a loop: of the reports
with an id, the first ones for their ids become the stations; all other reports are counted; and the
first of the first ones that holds an unreadable number is the error.

* `Policy.idOf` and `Policy.elevationOf` are the choices, by a nested search;
* `firstReports` are the reports whose id no earlier report has;
* `Taken` relates such a report to its station, `faultOf` is its first unreadable number;
* `canonicalize_eq_reference` is the law for every policy and every list of reports.
-/

namespace RadarCatalog.Registry

open RadarCatalog.Numeric

/-! ## 1. The reference -/

/-- The id of a report: the first identifier of the earliest category that it has one of. -/
def Policy.idOf (p : Policy) (report : StationReport) : Option String :=
  (firstRanked p.identifiers Tagged.category report.identifiers).map Tagged.value

/-- The elevation of a report, chosen in the same way. -/
def Policy.elevationOf (p : Policy) (report : StationReport) : Option Tagged :=
  firstRanked p.elevations Tagged.category report.elevations

/-- The report has an id that none of the earlier ones has. -/
def Policy.isFirst (p : Policy) (earlier : List StationReport) (report : StationReport) : Bool :=
  (p.idOf report).any fun id => earlier.all fun r => p.idOf r ≠ some id

/-- The first reports of their ids, with their positions. -/
def firstReports (p : Policy) (reports : List StationReport) : List (StationReport × Nat) :=
  reports.zipIdx.filter fun r => p.isFirst (reports.take r.2) r.1

/-- The numbers that are wanted of a report are readable: with the blank characters around it taken
    away, each of their texts is the numeral of a finite number. -/
structure Readable (p : Policy) (report : StationReport) : Prop where
  latitude : (readFinite? (Text.trim report.latitude.toList)).isSome = true
  longitude : (readFinite? (Text.trim report.longitude.toList)).isSome = true
  elevation : ∀ entry, p.elevationOf report = some entry →
    (readFinite? (Text.trim entry.value.toList)).isSome = true

/-- The station has the id, the numbers and the first platform of the report. -/
structure Taken (p : Policy) (report : StationReport) (s : Station) : Prop where
  id : p.idOf report = some s.id
  lat : ∃ x, readFinite? (Text.trim report.latitude.toList) = some x ∧ s.lat = .finite x
  lon : ∃ x, readFinite? (Text.trim report.longitude.toList) = some x ∧ s.lon = .finite x
  unknown : p.elevationOf report = none → s.elevation = none
  elevation : ∀ entry, p.elevationOf report = some entry →
    ∃ x, readFinite? (Text.trim entry.value.toList) = some x ∧ s.elevation = some (.finite x)
  platform : s.platform = report.platforms.head?

/-- The first unreadable number of a report: the latitude, the longitude, the elevation. -/
def faultOf (p : Policy) (r : StationReport × Nat) : Option NumberError :=
  if (readFinite? (Text.trim r.1.latitude.toList)).isNone then
    some (.coordinate r.2 .latitude r.1.latitude)
  else if (readFinite? (Text.trim r.1.longitude.toList)).isNone then
    some (.coordinate r.2 .longitude r.1.longitude)
  else
    (p.elevationOf r.1).bind fun entry =>
      if (readFinite? (Text.trim entry.value.toList)).isNone then
        (p.idOf r.1).map fun id => .elevation id entry.value
      else none

/-- What some reports are reduced to. -/
structure Reduces (p : Policy) (reports : List StationReport) (c : Canonical) : Prop where
  stations : List.Forall₂ (fun r s => Taken p r.1 s) (firstReports p reports) c.stations.toList
  coherent : c.stations.Coherent
  known : ∀ id, c.stations.contains id = true ↔ ∃ r ∈ reports, p.idOf r = some id
  unidentified : c.unidentified = reports.countP fun r => (p.idOf r).isNone
  total : c.stations.size + c.duplicatesDropped + c.unidentified = reports.length

/-! ## 2. One report -/

section Report

variable {p : Policy} {report : StationReport} {position : Nat} {id : String}

theorem idOf_ofPolicy (p : Policy) (report : StationReport) :
    (Ranking.ofPolicy p).idOf report = p.idOf report := by
  rw [Ranking.idOf, Ranking.ofPolicy, Priority.best_ofList]
  rfl

theorem bestWith_ofPolicy (p : Policy) (report : StationReport)
    (extract : Tagged → Except NumberError Binary64) :
    (Ranking.ofPolicy p).elevations.bestWith Tagged.category extract report.elevations =
      match p.elevationOf report with
      | none => .ok none
      | some entry => (extract entry).map some := by
  rw [Priority.bestWith, Ranking.ofPolicy, Priority.best_ofList, Policy.elevationOf]
  cases firstRanked p.elevations Tagged.category report.elevations with
  | none => rfl
  | some entry => rfl

/-- **A report gives its station or its first fault.** -/
theorem stationOf_cases (position : Nat) (hid : p.idOf report = some id) :
    (∃ s, (Ranking.ofPolicy p).stationOf position id report = .ok s ∧ s.id = id ∧
        Taken p report s ∧ faultOf p (report, position) = none) ∨
      ∃ e, (Ranking.ofPolicy p).stationOf position id report = .error e ∧
        faultOf p (report, position) = some e := by
  unfold Ranking.stationOf faultOf parseCoordinate parseNumber?
  rw [bestWith_ofPolicy]
  cases hlat : readFinite? (Text.trim report.latitude.toList) with
  | none => exact .inr ⟨_, rfl, rfl⟩
  | some lat =>
    cases hlon : readFinite? (Text.trim report.longitude.toList) with
    | none => exact .inr ⟨_, rfl, rfl⟩
    | some lon =>
      cases hentry : p.elevationOf report with
      | none =>
        refine .inl
          ⟨⟨id, .finite lat, .finite lon, none, report.platforms.head?⟩, rfl, rfl, ?_, rfl⟩
        refine ⟨hid, ⟨lat, hlat, rfl⟩, ⟨lon, hlon, rfl⟩, fun _ => rfl, ?_, rfl⟩
        intro entry h
        rw [hentry] at h
        cases h
      | some entry =>
        simp only [parseElevation, parseNumber?]
        cases hvalue : readFinite? (Text.trim entry.value.toList) with
        | none =>
          refine .inr ⟨.elevation id entry.value, rfl, ?_⟩
          simp [hvalue, hid]
        | some x =>
          refine .inl ⟨⟨id, .finite lat, .finite lon, some (.finite x), report.platforms.head?⟩,
            rfl, rfl, ?_, ?_⟩
          · refine ⟨hid, ⟨lat, hlat, rfl⟩, ⟨lon, hlon, rfl⟩, ?_, ?_, rfl⟩
            · intro h
              rw [hentry] at h
              cases h
            · intro entry' h
              rw [hentry] at h
              cases h
              exact ⟨x, hvalue, rfl⟩
          · simp [hvalue]

/-- A report with an id is readable exactly when it has no fault. -/
theorem readable_iff (hid : p.idOf report = some id) :
    Readable p report ↔ faultOf p (report, position) = none := by
  unfold faultOf
  constructor
  · intro h
    have hlat : (readFinite? (Text.trim report.latitude.toList)).isNone = false := by
      rw [← Option.not_isSome, h.latitude, Bool.not_true]
    have hlon : (readFinite? (Text.trim report.longitude.toList)).isNone = false := by
      rw [← Option.not_isSome, h.longitude, Bool.not_true]
    simp only [hlat, hlon, Bool.false_eq_true, if_false]
    rw [Option.bind_eq_none_iff]
    intro entry hentry
    have hvalue : (readFinite? (Text.trim entry.value.toList)).isNone = false := by
      rw [← Option.not_isSome, h.elevation entry hentry, Bool.not_true]
    simp only [hvalue, Bool.false_eq_true, if_false]
  · intro h
    split at h
    · cases h
    · rename_i hlat
      split at h
      · cases h
      · rename_i hlon
        refine ⟨by simpa [Option.isSome_iff_ne_none] using hlat,
          by simpa [Option.isSome_iff_ne_none] using hlon, ?_⟩
        intro entry hentry
        rw [Option.bind_eq_none_iff] at h
        have hvalue := h entry hentry
        simp only [hid, Option.map_some] at hvalue
        split at hvalue
        · cases hvalue
        · rename_i hnot
          simpa [Option.isSome_iff_ne_none] using hnot

end Report

/-! ## 3. One report more -/

section Step

variable {p : Policy} {reports : List StationReport} {report : StationReport} {c : Canonical}

theorem firstReports_append (p : Policy) (reports : List StationReport) (report : StationReport) :
    firstReports p (reports ++ [report]) =
      firstReports p reports ++
        if p.isFirst reports report then [(report, reports.length)] else [] := by
  have hearlier : ∀ r ∈ reports.zipIdx, p.isFirst ((reports ++ [report]).take r.2) r.1 =
      p.isFirst (reports.take r.2) r.1 := by
    intro r hr
    have hlt : r.2 < reports.length := by
      simpa using (List.mem_zipIdx hr).2.1
    rw [List.take_append_of_le_length (Nat.le_of_lt hlt)]
  unfold firstReports
  rw [List.zipIdx_append, List.filter_append, List.filter_congr hearlier]
  simp only [Nat.zero_add, List.zipIdx_cons, List.zipIdx_nil, List.filter_cons, List.filter_nil,
    List.take_left']

/-- **Reports behind others** are added to what was made of those. -/
theorem canonicalize_append_reports (p : Policy) (reports further : List StationReport) :
    canonicalize p (reports ++ further) = canonicalize p reports >>= fun c =>
      (further.zipIdx reports.length).foldlM (Canonical.add (Ranking.ofPolicy p)) c := by
  rw [canonicalize, List.zipIdx_append, List.foldlM_append, Nat.zero_add, ← canonicalize]

theorem canonicalize_append (p : Policy) (reports : List StationReport) (report : StationReport) :
    canonicalize p (reports ++ [report]) =
      (canonicalize p reports >>= fun c =>
        c.add (Ranking.ofPolicy p) (report, reports.length)) := by
  rw [canonicalize_append_reports, List.zipIdx_cons, List.zipIdx_nil]
  simp only [List.foldlM_cons, List.foldlM_nil, bind_pure]

theorem isFirst_of_none (hid : p.idOf report = none) : p.isFirst reports report = false := by
  rw [Policy.isFirst, hid]
  rfl

/-- Where the stations hold the ids so far, they tell the first report of an id. -/
theorem Reduces.isFirst (h : Reduces p reports c) {id : String} (hid : p.idOf report = some id) :
    p.isFirst reports report = !c.stations.contains id := by
  rw [Policy.isFirst, hid, Option.any_some, Bool.eq_iff_iff]
  simp only [List.all_eq_true, decide_eq_true_eq, Bool.not_eq_true', ← Bool.not_eq_true, h.known]
  constructor
  · intro hnew hold
    obtain ⟨r, hr, hrid⟩ := hold
    exact hnew r hr hrid
  · intro hnew r hr hrid
    exact hnew ⟨r, hr, hrid⟩

theorem reduces_nil : Reduces p [] .empty where
  stations := .nil
  coherent := Stations.coherent_empty
  known := by
    intro id
    show Stations.empty.contains id = true ↔ _
    rw [Stations.coherent_empty.contains_iff]
    exact ⟨fun h => absurd h List.not_mem_nil, fun ⟨_, h, _⟩ => absurd h List.not_mem_nil⟩
  unidentified := rfl
  total := rfl

theorem known_append {id : String} : (∃ r ∈ reports ++ [report], p.idOf r = some id) ↔
    (∃ r ∈ reports, p.idOf r = some id) ∨ p.idOf report = some id := by
  simp only [List.mem_append, List.mem_singleton, or_and_right, exists_or, exists_eq_left]

/-- A report without an id is counted. -/
theorem Reduces.append_unidentified (h : Reduces p reports c) (hid : p.idOf report = none) :
    Reduces p (reports ++ [report]) { c with unidentified := c.unidentified + 1 } where
  stations := by
    rw [firstReports_append, isFirst_of_none hid, if_neg Bool.false_ne_true, List.append_nil]
    exact h.stations
  coherent := h.coherent
  known := by
    intro id'
    rw [h.known, known_append, hid]
    exact ⟨.inl, fun hor => hor.elim id nofun⟩
  unidentified := by
    simp [List.countP_append, h.unidentified, hid]
  total := by
    have htotal := h.total
    rw [List.length_append, List.length_singleton]
    show c.stations.size + c.duplicatesDropped + (c.unidentified + 1) = reports.length + 1
    omega

/-- A report whose id is taken is counted. -/
theorem Reduces.append_duplicate (h : Reduces p reports c) {id : String}
    (hid : p.idOf report = some id) (htaken : c.stations.contains id = true) :
    Reduces p (reports ++ [report]) { c with duplicatesDropped := c.duplicatesDropped + 1 } where
  stations := by
    rw [firstReports_append, h.isFirst hid, htaken, Bool.not_true, if_neg Bool.false_ne_true,
      List.append_nil]
    exact h.stations
  coherent := h.coherent
  known := by
    intro id'
    rw [h.known, known_append, hid]
    constructor
    · exact .inl
    · rintro (hold | hnew)
      · exact hold
      · cases hnew
        exact (h.known id).1 htaken
  unidentified := by
    simp [List.countP_append, h.unidentified, hid]
  total := by
    have htotal := h.total
    rw [List.length_append, List.length_singleton]
    show c.stations.size + (c.duplicatesDropped + 1) + c.unidentified = reports.length + 1
    omega

/-- The first report of an id gives a station. -/
theorem Reduces.append_first (h : Reduces p reports c) {id : String}
    (hid : p.idOf report = some id) (hfree : c.stations.contains id = false) {s : Station}
    (hs : s.id = id) (htaken : Taken p report s) :
    Reduces p (reports ++ [report]) { c with stations := (c.stations.insert s).2 } where
  stations := by
    rw [firstReports_append, h.isFirst hid, hfree, Bool.not_false, if_pos rfl]
    show List.Forall₂ _ _ (c.stations.insert s).2.toList
    rw [Stations.toList_insert, hs, hfree, if_neg Bool.false_ne_true]
    exact List.rel_append h.stations (.cons htaken .nil)
  coherent := h.coherent.insert s
  known := by
    intro id'
    show (c.stations.insert s).2.contains id' = true ↔ _
    rw [Stations.contains_insert, Bool.or_eq_true, beq_iff_eq, hs, h.known, known_append, hid,
      Option.some.injEq]
    exact or_comm
  unidentified := by
    simp [List.countP_append, h.unidentified, hid]
  total := by
    have htotal := h.total
    have hsize : (c.stations.insert s).2.size = c.stations.size + 1 := by
      rw [Stations.insert, hs, hfree]
      exact Array.size_push _
    rw [List.length_append, List.length_singleton]
    show (c.stations.insert s).2.size + c.duplicatesDropped + c.unidentified = reports.length + 1
    omega

/-- **One report more** is taken or counted, or its fault is the error. -/
theorem Reduces.add_cases (h : Reduces p reports c) (report : StationReport) :
    (∃ c', c.add (Ranking.ofPolicy p) (report, reports.length) = .ok c' ∧
        Reduces p (reports ++ [report]) c' ∧
        (p.isFirst reports report = true → faultOf p (report, reports.length) = none)) ∨
      ∃ e, c.add (Ranking.ofPolicy p) (report, reports.length) = .error e ∧
        p.isFirst reports report = true ∧ faultOf p (report, reports.length) = some e := by
  unfold Canonical.add
  rw [idOf_ofPolicy]
  cases hid : p.idOf report with
  | none =>
    refine .inl ⟨_, rfl, h.append_unidentified hid, ?_⟩
    rw [isFirst_of_none hid]
    exact nofun
  | some id =>
    cases hc : c.stations.contains id with
    | true =>
      refine .inl ⟨_, by simp only [hc, if_true], h.append_duplicate hid hc, ?_⟩
      rw [h.isFirst hid, hc]
      exact nofun
    | false =>
      simp only [hc, Bool.false_eq_true, if_false]
      rcases stationOf_cases reports.length hid with
        ⟨s, hs, hsid, htaken, hfault⟩ | ⟨e, he, hfault⟩
      · rw [hs]
        exact .inl ⟨_, rfl, h.append_first hid hc hsid htaken, fun _ => hfault⟩
      · rw [he]
        refine .inr ⟨e, rfl, ?_, hfault⟩
        rw [h.isFirst hid, hc]
        rfl

end Step

/-! ## 4. All reports -/

/-- The reduction ends with the stations, or with the first fault of the first reports. -/
theorem canonicalize_cases (p : Policy) (reports : List StationReport) :
    (∃ c, canonicalize p reports = .ok c ∧ Reduces p reports c ∧
        (firstReports p reports).findSome? (faultOf p) = none) ∨
      ∃ e, canonicalize p reports = .error e ∧
        (firstReports p reports).findSome? (faultOf p) = some e := by
  induction reports using List.reverseRecOn with
  | nil => exact .inl ⟨.empty, rfl, reduces_nil, rfl⟩
  | append_singleton reports report ih =>
    rw [canonicalize_append, firstReports_append, List.findSome?_append]
    rcases ih with ⟨c, hc, hreduces, hnone⟩ | ⟨e, he, hfault⟩
    · rw [hc, hnone, Option.none_or]
      rcases hreduces.add_cases report with ⟨c', hc', hreduces', hfault⟩ | ⟨e, he, hfirst, hfault⟩
      · refine .inl ⟨c', hc', hreduces', ?_⟩
        split
        · rename_i hfirst
          rw [List.findSome?_cons, hfault hfirst]
          rfl
        · rfl
      · refine .inr ⟨e, he, ?_⟩
        rw [if_pos hfirst, List.findSome?_cons, hfault]
    · rw [he, hfault]
      exact .inr ⟨e, rfl, rfl⟩

theorem reduces_of_canonicalize {p : Policy} {reports : List StationReport} {c : Canonical}
    (h : canonicalize p reports = .ok c) : Reduces p reports c := by
  rcases canonicalize_cases p reports with ⟨c', hc', hreduces, _⟩ | ⟨e, he, _⟩
  · rw [h] at hc'
    cases hc'
    exact hreduces
  · rw [h] at he
    cases he

/-- Without a fault the reduction succeeds. -/
theorem exists_canonicalize {p : Policy} {reports : List StationReport}
    (h : (firstReports p reports).findSome? (faultOf p) = none) :
    ∃ c, canonicalize p reports = .ok c := by
  rcases canonicalize_cases p reports with ⟨c, hc, _⟩ | ⟨e, _, he⟩
  · exact ⟨c, hc⟩
  · rw [h] at he
    cases he

/-- Every station is that of a first report. -/
theorem Reduces.exists_taken {p : Policy} {reports : List StationReport} {c : Canonical}
    (h : Reduces p reports c) {s : Station} (hs : s ∈ c.stations.toList) :
    ∃ r ∈ firstReports p reports, Taken p r.1 s := by
  obtain ⟨i, hlt, hi⟩ := List.mem_iff_getElem.1 hs
  have hlength := h.stations.length_eq
  refine ⟨(firstReports p reports)[i], List.getElem_mem _, ?_⟩
  have htaken := h.stations.get (hlength ▸ hlt) hlt
  simpa only [List.get_eq_getElem, hi] using htaken

/-- **The reduction is its reference.** If all first reports are readable, it ends with one station
    for each of them, in order, and counts the other reports; if not, the first fault of the first
    unreadable one is the error. -/
theorem canonicalize_eq_reference (p : Policy) (reports : List StationReport) :
    ((∀ r ∈ firstReports p reports, Readable p r.1) →
        ∃ c, canonicalize p reports = .ok c ∧ Reduces p reports c) ∧
      ((∃ r ∈ firstReports p reports, ¬ Readable p r.1) →
        ∃ e, canonicalize p reports = .error e ∧
          (firstReports p reports).findSome? (faultOf p) = some e) := by
  have hfault : ∀ r ∈ firstReports p reports, Readable p r.1 ↔ faultOf p r = none := by
    intro r hr
    have hfirst := (List.mem_filter.1 hr).2
    cases hid : p.idOf r.1 with
    | none =>
      rw [isFirst_of_none hid] at hfirst
      cases hfirst
    | some id => exact readable_iff hid
  rcases canonicalize_cases p reports with ⟨c, hc, hreduces, hnone⟩ | ⟨e, he, hsome⟩
  · refine ⟨fun _ => ⟨c, hc, hreduces⟩, ?_⟩
    intro hnot
    obtain ⟨r, hr, hunreadable⟩ := hnot
    exact absurd ((hfault r hr).2 (List.findSome?_eq_none_iff.1 hnone r hr)) hunreadable
  · refine ⟨?_, fun _ => ⟨e, he, hsome⟩⟩
    intro hall
    have hnone : (firstReports p reports).findSome? (faultOf p) = none :=
      List.findSome?_eq_none_iff.2 fun r hr => (hfault r hr).1 (hall r hr)
    rw [hnone] at hsome
    cases hsome

end RadarCatalog.Registry
