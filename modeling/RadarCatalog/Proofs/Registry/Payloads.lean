import RadarCatalog.Proofs.Registry.Reordering
import RadarCatalog.Update.Revision

/-!
# Payloads that cannot be used

A payload is the text of a snapshot. It gives canonical stations unless

* it is no JSON list (`NoList`), or
* it is one, and an entry does not decode, or the first report of an id holds a selected number
  that is not finite (`Unfit`).

`exists_canonicalOf_iff` and `unusable_iff` say that these are all the reasons.
-/

namespace RadarCatalog.Registry

open RadarCatalog.Json RadarCatalog.Update

/-! ## 1. Station values -/

/-- A list of station values decodes when each of them does. -/
theorem decodeStations_eq_ok {stations : List Value} {reports : List StationReport} :
    decodeStations stations = .ok reports ↔
      List.Forall₂ (fun v r => decodeStation v = .ok r) stations reports :=
  mapM_zipIdx_eq_ok

theorem canonicalOf_eq_ok {p : Policy} {stations : List Value} {c : Canonical} :
    canonicalOf p stations = .ok c ↔
      ∃ reports, decodeStations stations = .ok reports ∧ canonicalize p reports = .ok c := by
  unfold canonicalOf
  simp only [bind_eq_ok, mapError_eq_ok]

/-- Why station values give no canonical stations: an entry has not the expected fields, or a
    number that is wanted of the first report of an id is not finite. -/
inductive Unfit (p : Policy) (stations : List Value) : Prop where
  | entry {v : Value} {e : DecodeError} (mem : v ∈ stations) (decode : decodeStation v = .error e)
  | number {reports : List StationReport} {id : String} {report : StationReport}
      (decode : decodeStations stations = .ok reports)
      (first : p.reportOf id reports = some report) (unreadable : ¬ Readable p report)

/-- **Station values give canonical stations** unless they are unfit. -/
theorem exists_canonicalOf_iff {p : Policy} {stations : List Value} :
    (∃ c, canonicalOf p stations = .ok c) ↔ ¬ Unfit p stations := by
  constructor
  · intro h hunfit
    obtain ⟨c, hc⟩ := h
    obtain ⟨reports, hdecode, hcanonicalize⟩ := canonicalOf_eq_ok.1 hc
    cases hunfit with
    | @entry v e mem decode =>
      obtain ⟨report, hreport⟩ := exists_of_forall₂ (decodeStations_eq_ok.1 hdecode) v mem
      rw [decode] at hreport
      cases hreport
    | number decode first unreadable =>
      rw [hdecode] at decode
      cases decode
      exact unreadable (canonicalize_succeeds_iff.1 ⟨c, hcanonicalize⟩ _ _ first)
  · intro hfit
    have hall : ∀ v ∈ stations, ∃ report, decodeStation v = .ok report := by
      intro v hv
      cases hdecode : decodeStation v with
      | error e => exact absurd (.entry hv hdecode) hfit
      | ok report => exact ⟨report, rfl⟩
    obtain ⟨reports, hreports⟩ := exists_mapM hall
    have hdecode := decodeStations_eq_ok.2 (mapM_eq_ok.1 hreports)
    obtain ⟨c, hc⟩ : ∃ c, canonicalize p reports = .ok c := by
      refine canonicalize_succeeds_iff.2 ?_
      intro id report hfirst
      by_contra hunreadable
      exact hfit (.number hdecode hfirst hunreadable)
    exact ⟨c, canonicalOf_eq_ok.2 ⟨reports, hdecode, hc⟩⟩

/-- The stations that are taken from the first reports are the canonical ones. -/
theorem exists_canonicalOf_of_taken {p : Policy} {stations : List Value}
    {reports : List StationReport} {ss : List Station}
    (hdecode : decodeStations stations = .ok reports)
    (h : List.Forall₂ (fun r s => Taken p r.1 s) (firstReports p reports) ss) :
    ∃ c, canonicalOf p stations = .ok c ∧ c.stations.Coherent ∧ c.stations.toList = ss := by
  obtain ⟨c, hc, hcoherent, hstations⟩ := exists_canonicalize_of_taken h
  exact ⟨c, canonicalOf_eq_ok.2 ⟨reports, hdecode, hc⟩, hcoherent, hstations⟩

/-! ## 2. Texts -/

/-- The text is no JSON, or no list. -/
def NoList (text : String) : Prop := ∃ e, readSnapshot text = .error e

/-- Why a text gives no canonical stations. -/
inductive Unusable (p : Policy) (text : String) : Prop where
  | noList (h : NoList text)
  | unfit {stations : List Value} (read : readSnapshot text = .ok stations)
      (h : Unfit p stations)

/-- **A text gives canonical stations** unless it is unusable. -/
theorem unusable_iff {p : Policy} {text : String} : Unusable p text ↔
    ¬ ∃ stations c, readSnapshot text = .ok stations ∧ canonicalOf p stations = .ok c := by
  constructor
  · intro h husable
    obtain ⟨stations, c, hread, hc⟩ := husable
    cases h with
    | noList h =>
      obtain ⟨e, he⟩ := h
      rw [hread] at he
      cases he
    | unfit read h =>
      rw [hread] at read
      cases read
      exact exists_canonicalOf_iff.1 ⟨c, hc⟩ h
  · intro h
    cases hread : readSnapshot text with
    | error e => exact .noList ⟨e, hread⟩
    | ok stations =>
      refine .unfit hread ?_
      by_contra hfit
      obtain ⟨c, hc⟩ := exists_canonicalOf_iff.2 hfit
      exact h ⟨stations, c, hread, hc⟩

end RadarCatalog.Registry
