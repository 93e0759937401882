import RadarCatalog.Proofs.Catalog.MergePolicy
import RadarCatalog.Proofs.Json.Values
import RadarCatalog.Proofs.Numeric.Nearest
import RadarCatalog.Proofs.Registry.QuotedNumbers
import RadarCatalog.Proofs.Registry.Reordering
import RadarCatalog.Proofs.Registry.Selection

/-!
# Numbers of the registry

A number on its way into the catalog is written as a JSON text, read from the text as a finite
number, and becomes a number of the catalog.

* `Denotes`: the finite number that a number is taken for, itself or the nearest to an integer;
* `parseNumber?_text`: a number is read from its text without a loss;
* `CoordinateNumber`, `ElevationNumber`: where a number stands in a station value, and
  `coordinate_of_decode`, `elevation_of_decode`: the text that a report has of it;
* `writtenBack_of_coordinate`: a finite coordinate of a station in the catalogs made of it;
* `canonicalize_ne_coordinate`, `canonicalize_ne_elevation`: what is readable is never the error;
* `numbers_exact`: numbers may stand between quotes, are never a fault, and get into the catalog as
  they are.
-/

namespace RadarCatalog.Registry

open RadarCatalog.Catalog RadarCatalog.Json RadarCatalog.Numeric

/-! ## 1. The text of a number -/

/-- The finite number is the one that a number is taken for: a finite number for itself, and the
    nearest one for an integer, which has the sign of the integer and is positive for zero. -/
def Denotes : Number → Finite → Prop
  | .real y, x => x = y
  | .integer z, x => x.negative = decide (z.val < 0) ∧ NearestEven z.val x

theorem isBlank_of_isPlain {c : Char} (hplain : isPlain c = true) (hspace : c ≠ ' ') :
    Text.isBlank c = false := by
  have hne : c.toNat ≠ 0x20 := fun h => hspace (Char.toNat_inj.1 h)
  simp only [isPlain, Bool.and_eq_true, decide_eq_true_eq] at hplain
  rw [Text.isBlank, Bool.eq_false_iff]
  simp only [Text.blankRanges, List.any_cons, List.any_nil, Bool.or_false, ne_eq, Bool.or_eq_true,
    Bool.and_eq_true, decide_eq_true_eq]
  omega

theorem trim_of_no_blank {cs : List Char} (h : ∀ c ∈ cs, Text.isBlank c = false) :
    Text.trim cs = cs := by
  have hdrop : ∀ ds : List Char, (∀ c ∈ ds, Text.isBlank c = false) →
      ds.dropWhile Text.isBlank = ds := by
    intro ds hds
    cases ds with
    | nil => rfl
    | cons d ds =>
      refine List.dropWhile_cons_of_neg ?_
      rw [hds d List.mem_cons_self]
      exact Bool.false_ne_true
  rw [Text.trim, hdrop cs h, hdrop, List.reverse_reverse]
  intro c hc
  exact h c (List.mem_reverse.1 hc)

/-- Nothing is taken off a number's text. -/
theorem trim_text (n : Number) : Text.trim n.text = n.text := by
  refine trim_of_no_blank fun c hc => ?_
  obtain ⟨hplain, hspace⟩ := plain_of_mem_number n hc
  exact isBlank_of_isPlain hplain hspace

theorem readFinite?_integer (z : Integer) : ∃ x, readFinite? (signedDigits z.val) = some x ∧
    x.negative = decide (z.val < 0) ∧ NearestEven z.val x := by
  have hbound : z.val.natAbs < 10 ^ 20 := by
    have hlower := z.lower
    have hupper := z.upper
    omega
  obtain ⟨x, hx, hnegative, hnear⟩ := exists_toBinary64_whole (decide (z.val < 0)) hbound
  have hvalue : signed (decide (z.val < 0)) (z.val.natAbs : ℚ) = z.val := by
    by_cases hneg : z.val < 0
    · rw [signed, decide_eq_true hneg, if_pos rfl, Nat.cast_natAbs, abs_of_neg hneg]
      push_cast
      ring
    · rw [signed, decide_eq_false hneg, if_neg Bool.false_ne_true, Nat.cast_natAbs,
        abs_of_nonneg (not_lt.1 hneg)]
  rw [hvalue] at hnear
  have hdecimal : (integerLiteral z.val).numeral.decimal =
      ⟨decide (z.val < 0), z.val.natAbs, 0⟩ := by
    simp [Numeral.decimal, Literal.numeral, integerLiteral, ofDigits_digits]
  refine ⟨x, ?_, hnegative, hnear⟩
  rw [readFinite?, ← text_integerLiteral, Literal.scan?_text, Option.bind_some, hdecimal, hx]
  rfl

/-- **A number is read from its text** as what it is taken for. -/
theorem parseNumber?_text (n : Number) :
    ∃ x, parseNumber? (String.ofList n.text) = some x ∧ Denotes n x := by
  rw [parseNumber?, String.toList_ofList, trim_text]
  cases n with
  | integer z => exact readFinite?_integer z
  | real x =>
    obtain ⟨l, htext, hreads, _⟩ := exists_literal_text x
    refine ⟨x, ?_, rfl⟩
    show readFinite? x.text = some x
    rw [readFinite?, htext, l.scan?_text, Option.bind_some, hreads]
    rfl

/-- One more than `2 ^ 53` lies between two finite numbers and is read as the even one. -/
example : (parseNumber? "9007199254740993").map (fun x => (x.significand, x.exponent)) =
    some (leastNormal, 1) := by decide +kernel

/-! ## 2. Where numbers stand -/

/-- A wire record holds a value in a wanted field, under its name or at its position. -/
def Wire.Holds (w : Wire) (v : Value) (key : String) (u : Value) : Prop :=
  ∃ i p, w.fields[i]? = some (key, p) ∧ (w.record.offer v).find key i = some u

/-- The field of a coordinate. -/
def Axis.field : Axis → String
  | .latitude => "latitude_dec"
  | .longitude => "longitude_dec"

/-- A station value holds a number as a coordinate. -/
def CoordinateNumber (v : Value) (axis : Axis) (n : Number) : Prop :=
  ∃ header, Wire.station.Holds v "header" header ∧
    Wire.header.Holds header axis.field (numberValue n)

/-- A station value holds a number in one of its elevations. -/
def ElevationNumber (v : Value) (place : Nat) (n : Number) : Prop :=
  ∃ location entries entry, Wire.station.Holds v "location" location ∧
    Wire.location.Holds location "elevations" (.list entries) ∧ entries[place]? = some entry ∧
    Wire.elevation.Holds entry "elevationFeet" (numberValue n)

/-- The text of a coordinate. -/
def StationReport.coordinate (report : StationReport) : Axis → String
  | .latitude => report.latitude
  | .longitude => report.longitude

/-- What is held is decoded by the slot of its field. -/
theorem Wire.decode_of_holds (w : Wire) {α : Type} {slot : Slot α} {a : α} {v u : Value} {i : Nat}
    {p : Part} (htakes : slot.Takes ((w.record.offer v).find slot.name i) a)
    (hfield : w.fields[i]? = some (slot.name, p)) (h : w.Holds v slot.name u) :
    slot.decode u = .ok a := by
  obtain ⟨j, q, hj, hu⟩ := h
  obtain rfl : i = j := w.position_unique hfield hj
  rw [hu] at htakes
  exact htakes

section Decoded

variable {v : Value} {report : StationReport} {n : Number}

/-- **A number as a coordinate** is decoded to its text. -/
theorem coordinate_of_decode {axis : Axis} (hdecode : decodeStation v = .ok report)
    (h : CoordinateNumber v axis n) : report.coordinate axis = String.ofList n.text := by
  obtain ⟨header, hheader, hnumber⟩ := h
  obtain ⟨_, _, htakes, _⟩ := takes_of_decodeStation hdecode
  have hdecoded : decodeHeader header = .ok (report.latitude, report.longitude) :=
    Wire.station.decode_of_holds htakes rfl hheader
  obtain ⟨_, latitude, longitude, hlatitude, hlongitude, hreport⟩ :=
    takes_of_decodeRecordTwo hdecoded
  cases hreport
  cases axis with
  | latitude =>
    have htext := Wire.header.decode_of_holds hlatitude rfl hnumber
    exact (Except.ok.inj htext).symm
  | longitude =>
    have htext := Wire.header.decode_of_holds hlongitude rfl hnumber
    exact (Except.ok.inj htext).symm

/-- **A number in an elevation** is decoded to its text. -/
theorem elevation_of_decode {place : Nat} {entry : Tagged} (hdecode : decodeStation v = .ok report)
    (h : ElevationNumber v place n) (hentry : report.elevations[place]? = some entry) :
    entry.value = String.ofList n.text := by
  obtain ⟨location, entries, value, hlocation, hentries, hvalue, hnumber⟩ := h
  obtain ⟨_, _, _, htakes, _⟩ := takes_of_decodeStation hdecode
  have hdecoded : decodeLocation location = .ok report.elevations :=
    Wire.station.decode_of_holds htakes rfl hlocation
  obtain ⟨_, elevations, helevations, hreport⟩ := takes_of_decodeRecordOne hdecoded
  cases hreport
  have hitems : entries.mapM decodeElevation = .ok report.elevations :=
    Wire.location.decode_of_holds helevations rfl hentries
  have hitem := rel_getElem?_of_forall₂ (mapM_eq_ok.1 hitems) hvalue hentry
  obtain ⟨_, category, feet, _, hfeet, hentry⟩ := takes_of_decodeRecordTwo hitem
  have htext := Wire.elevation.decode_of_holds hfeet rfl hnumber
  rw [hentry]
  exact (Except.ok.inj htext).symm

end Decoded

/-! ## 3. Where numbers get -/

/-- The coordinate of a station. -/
def Station.coordinate (s : Station) : Axis → Binary64
  | .latitude => s.lat
  | .longitude => s.lon

theorem Taken.coordinate {p : Policy} {report : StationReport} {s : Station} (h : Taken p report s)
    (axis : Axis) : ∃ x, parseNumber? (report.coordinate axis) = some x ∧
      s.coordinate axis = .finite x := by
  cases axis with
  | latitude => exact h.lat
  | longitude => exact h.lon

/-- The key of a coordinate in the catalog. -/
def Axis.key : Axis → String
  | .latitude => "lat"
  | .longitude => "lon"

/-- A record holds a value under a key that is written with the digits of the number. -/
def Shows (r : Record) (key : String) (n : Number) : Prop :=
  ∃ v, r.get? key = some v ∧ v.print = n.text ∧ valueText v = n.text

/-- The number is written back: by a fresh catalog, and by a merge into the records that may be
    moved. -/
structure WrittenBack (stations : Stations) (id key : String) (n : Number) : Prop where
  fresh : ∀ types, ∃ r ∈ (fresh stations types).records, r.id = id ∧ Shows r key n
  merged : ∀ (previous : Catalog) (allow : Option AllowList) (i : Nat) (r : Record),
    previous.records[i]? = some r → r.id = id → Authorised allow id →
      ∃ r', (merge stations previous allow).catalog.records[i]? = some r' ∧ r'.id = id ∧
        Shows r' key n

/-- A finite coordinate under its key. -/
theorem shows_of_get? {r : Record} {s : Station} {axis : Axis} {x : Finite}
    (h : r.get? axis.key = some (.ofBinary64 (s.coordinate axis)))
    (hx : s.coordinate axis = .finite x) : Shows r axis.key (.real x) := by
  rw [hx] at h
  exact ⟨.number (.real x), h, rfl, spelling_ascii.flatMap_text (.real x)⟩

theorem get?_freshRecord (types : List (String × String)) (s : Station) (axis : Axis) :
    (freshRecord types s).get? axis.key = some (.ofBinary64 (s.coordinate axis)) := by
  cases axis with
  | latitude => rfl
  | longitude => rfl

/-- A record that may be moved has the coordinates of the station. -/
theorem get?_mergeRecord_of_authorised {stations : Stations} {allow : Option AllowList} {r : Record}
    {s : Station} (hs : stations.get? r.id = some s) (hallow : Authorised allow r.id)
    (axis : Axis) : (mergeRecord stations allow r).1.get? axis.key =
      some (.ofBinary64 (s.coordinate axis)) := by
  have hkey : axis.key ≠ "elevation" := by
    cases axis with
    | latitude | longitude => decide
  rw [get?_mergeRecord stations allow r axis.key hkey, mover_of_authorised stations allow hs hallow]
  show (r.setPosition s.lat s.lon).get? axis.key = _
  rw [Record.get?_setPosition]
  cases axis with
  | latitude => rfl
  | longitude => rfl

/-- **A finite coordinate** of a station is written back. -/
theorem writtenBack_of_coordinate {stations : Stations} (h : stations.Coherent) {s : Station}
    (hs : stations.get? s.id = some s) {axis : Axis} {x : Finite}
    (hx : s.coordinate axis = .finite x) : WrittenBack stations s.id axis.key (.real x) where
  fresh := by
    intro types
    have hmem : s ∈ stations.toList := by
      rw [h.get?] at hs
      exact List.mem_of_find?_eq_some hs
    exact ⟨freshRecord types s, List.mem_map_of_mem hmem, rfl,
      shows_of_get? (get?_freshRecord types s axis) hx⟩
  merged := by
    intro previous allow i r hr hid hallow
    rw [← hid] at hs hallow
    refine ⟨(mergeRecord stations allow r).1, ?_, ?_, ?_⟩
    · rw [records_merge, List.getElem?_map, hr, Option.map_some]
    · rw [id_mergeRecord, hid]
    · exact shows_of_get? (get?_mergeRecord_of_authorised hs hallow axis) hx

/-! ## 4. What a fault says of a report -/

section Fault

variable {p : Policy} {r : StationReport × Nat}

theorem faultOf_coordinate {i : Nat} {axis : Axis} {text : String}
    (h : faultOf p r = some (.coordinate i axis text)) :
    i = r.2 ∧ parseNumber? (r.1.coordinate axis) = none := by
  unfold faultOf at h
  split at h
  · rename_i hlat
    cases h
    exact ⟨rfl, Option.isNone_iff_eq_none.1 hlat⟩
  · split at h
    · rename_i hlon
      cases h
      exact ⟨rfl, Option.isNone_iff_eq_none.1 hlon⟩
    · -- the elevation is never the fault of a coordinate
      obtain ⟨entry, _, h⟩ := Option.bind_eq_some_iff.1 h
      split at h
      · obtain ⟨id, _, h⟩ := Option.map_eq_some_iff.1 h
        cases h
      · cases h

theorem faultOf_elevation {id text : String} (h : faultOf p r = some (.elevation id text)) :
    p.idOf r.1 = some id ∧ ∃ entry, p.elevationOf r.1 = some entry ∧
      parseNumber? entry.value = none := by
  unfold faultOf at h
  split at h
  · cases h
  · split at h
    · cases h
    · obtain ⟨entry, hentry, h⟩ := Option.bind_eq_some_iff.1 h
      split at h
      · rename_i hnone
        obtain ⟨id', hid, h⟩ := Option.map_eq_some_iff.1 h
        cases h
        exact ⟨hid, entry, hentry, Option.isNone_iff_eq_none.1 hnone⟩
      · cases h

end Fault

section First

variable {p : Policy} {reports : List StationReport} {r : StationReport × Nat}

/-- An error is the fault of a first report. -/
theorem exists_fault_of_error {e : NumberError} (h : canonicalize p reports = .error e) :
    ∃ r ∈ firstReports p reports, faultOf p r = some e := by
  obtain ⟨c, hc, _⟩ | ⟨e', he', hfault⟩ := canonicalize_cases p reports
  · rw [h] at hc
    cases hc
  · rw [h] at he'
    cases he'
    exact List.exists_of_findSome?_eq_some hfault

/-- **A readable coordinate** of a first report is never the error. -/
theorem canonicalize_ne_coordinate (hr : r ∈ firstReports p reports) {axis : Axis} {x : Finite}
    (hx : parseNumber? (r.1.coordinate axis) = some x) (text : String) :
    canonicalize p reports ≠ .error (.coordinate r.2 axis text) := by
  intro h
  obtain ⟨r', hr', hfault⟩ := exists_fault_of_error h
  obtain ⟨hplace, hnone⟩ := faultOf_coordinate hfault
  have hget := (mem_firstReports_iff.1 hr).1
  rw [hplace, (mem_firstReports_iff.1 hr').1] at hget
  rw [Option.some.inj hget, hx] at hnone
  cases hnone

/-- **A readable elevation** of a first report is never the error. -/
theorem canonicalize_ne_elevation (hr : r ∈ firstReports p reports) {entry : Tagged} {x : Finite}
    (hentry : p.elevationOf r.1 = some entry) (hx : parseNumber? entry.value = some x)
    {id : String} (hid : p.idOf r.1 = some id) (text : String) :
    canonicalize p reports ≠ .error (.elevation id text) := by
  intro h
  obtain ⟨r', hr', hfault⟩ := exists_fault_of_error h
  obtain ⟨hid', entry', hentry', hnone⟩ := faultOf_elevation hfault
  have hreport := find?_of_mem_firstReports hr hid
  rw [find?_of_mem_firstReports hr' hid'] at hreport
  rw [Option.some.inj hreport, hentry] at hentry'
  cases hentry'
  rw [hx] at hnone
  cases hnone

/-- The station of a first report is found under its id. -/
theorem exists_station_of_first {c : Canonical} (hc : canonicalize p reports = .ok c)
    (hr : r ∈ firstReports p reports) :
    ∃ s, Taken p r.1 s ∧ c.stations.get? s.id = some s := by
  obtain ⟨id, hid⟩ := exists_id_of_mem_firstReports hr
  have hstation : Option.Rel (Taken p) (p.reportOf id reports) (c.stations.get? id) :=
    (reduces_of_canonicalize hc).get?_of_find?
  rw [find?_of_mem_firstReports hr hid] at hstation
  cases hget : c.stations.get? id with
  | none =>
    rw [hget] at hstation
    cases hstation
  | some s =>
    rw [hget] at hstation
    cases hstation with
    | some htaken =>
      obtain rfl : id = s.id := Option.some.inj (hid.symm.trans htaken.id)
      exact ⟨s, htaken, hget⟩

end First

/-! ## 5. Numbers are exact -/

section Exact

variable (p : Policy) (reports : List StationReport) (r : StationReport × Nat)

/-- The number is never the fault of the report, gets into its station as a coordinate, and is
    written back if it is no integer. -/
structure ExactCoordinate (axis : Axis) (n : Number) : Prop where
  faultless : ∀ text, canonicalize p reports ≠ .error (.coordinate r.2 axis text)
  value : ∀ c, canonicalize p reports = .ok c → ∃ s x, p.idOf r.1 = some s.id ∧
    c.stations.get? s.id = some s ∧ s.coordinate axis = .finite x ∧ Denotes n x
  written : ∀ c id y, canonicalize p reports = .ok c → p.idOf r.1 = some id → n = .real y →
    WrittenBack c.stations id axis.key n

/-- The number is never the fault of the report, and gets into its station as the elevation. -/
structure ExactElevation (n : Number) : Prop where
  faultless : ∀ id text, p.idOf r.1 = some id → canonicalize p reports ≠ .error (.elevation id text)
  value : ∀ c, canonicalize p reports = .ok c → ∃ s x, p.idOf r.1 = some s.id ∧
    c.stations.get? s.id = some s ∧ s.elevation = some (.finite x) ∧ Denotes n x

variable {p reports r} (hr : r ∈ firstReports p reports) {n : Number}
include hr

theorem exactCoordinate_of_text {axis : Axis}
    (htext : r.1.coordinate axis = String.ofList n.text) : ExactCoordinate p reports r axis n := by
  obtain ⟨x, hx, hdenotes⟩ := parseNumber?_text n
  rw [← htext] at hx
  have hstation : ∀ c, canonicalize p reports = .ok c → ∃ s, p.idOf r.1 = some s.id ∧
      c.stations.get? s.id = some s ∧ s.coordinate axis = .finite x := by
    intro c hc
    obtain ⟨s, htaken, hget⟩ := exists_station_of_first hc hr
    obtain ⟨x', hx', hs⟩ := htaken.coordinate axis
    obtain rfl : x = x' := Option.some.inj (hx.symm.trans hx')
    exact ⟨s, htaken.id, hget, hs⟩
  refine ⟨canonicalize_ne_coordinate hr hx, ?_, ?_⟩
  · intro c hc
    obtain ⟨s, hid, hget, hs⟩ := hstation c hc
    exact ⟨s, x, hid, hget, hs, hdenotes⟩
  · rintro c id y hc hid rfl
    obtain ⟨s, hsid, hget, hs⟩ := hstation c hc
    obtain rfl : id = s.id := Option.some.inj (hid.symm.trans hsid)
    obtain rfl : x = y := hdenotes
    exact writtenBack_of_coordinate (reduces_of_canonicalize hc).coherent hget hs

theorem exactElevation_of_text {entry : Tagged} (hentry : p.elevationOf r.1 = some entry)
    (htext : entry.value = String.ofList n.text) : ExactElevation p reports r n := by
  obtain ⟨x, hx, hdenotes⟩ := parseNumber?_text n
  rw [← htext] at hx
  refine ⟨fun id text hid => canonicalize_ne_elevation hr hentry hx hid text, ?_⟩
  intro c hc
  obtain ⟨s, htaken, hget⟩ := exists_station_of_first hc hr
  obtain ⟨x', hx', helevation⟩ := htaken.elevation entry hentry
  obtain rfl : x = x' := Option.some.inj (hx.symm.trans hx')
  exact ⟨s, x, htaken.id, hget, helevation, hdenotes⟩

end Exact

/-- **Numbers are exact, between quotes and without.** Quotes around numbers change neither what
    station values decode to nor the canonical stations. A number that stands as a coordinate of the
    first report of an id, or as its chosen elevation, is never an error, and the station has just
    this number, or the nearest one to an integer. If it is a coordinate and no integer, it is
    written back with its own digits. -/
theorem numbers_exact (p : Policy) (stations : List Value) :
    (∀ quoted, List.Forall₂ (Quoted (.one .station)) stations quoted →
      decodeStations quoted = decodeStations stations ∧
        Update.canonicalOf p quoted = Update.canonicalOf p stations) ∧
      ∀ reports, decodeStations stations = .ok reports → ∀ r ∈ firstReports p reports,
        ∀ v, stations[r.2]? = some v →
          (∀ axis n, CoordinateNumber v axis n → ExactCoordinate p reports r axis n) ∧
          ∀ place entry n, Chosen p.elevations Tagged.category r.1.elevations place entry →
            ElevationNumber v place n → ExactElevation p reports r n := by
  refine ⟨fun quoted h => ⟨decodeStations_of_quoted h, canonicalOf_of_quoted h p⟩, ?_⟩
  intro reports hreports r hr v hv
  have hreport := (mem_firstReports_iff.1 hr).1
  have hdecode := rel_getElem?_of_forall₂ (decodeStations_eq_ok.1 hreports) hv hreport
  constructor
  · intro axis n hn
    exact exactCoordinate_of_text hr (coordinate_of_decode hdecode hn)
  · intro place entry n hchosen hn
    exact exactElevation_of_text hr (firstRanked_eq_some_iff.2 ⟨place, hchosen⟩)
      (elevation_of_decode hdecode hn hchosen.stands)

end RadarCatalog.Registry
