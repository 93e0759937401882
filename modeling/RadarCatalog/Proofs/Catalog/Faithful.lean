import RadarCatalog.Catalog.Coordinates
import RadarCatalog.Proofs.Catalog.Merging
import RadarCatalog.Proofs.Catalog.RoundTrip

/-!
# Faithful texts

The verification reads a text without asking for one key order, and its equality of values does not
tell the two zeros apart. It still accepts no text but those that hold the expected records, and
what it does not see is not seen by the commands either.

* `Faithful`, `Unfaithful`: the texts that are accepted, and what is wrong with the others;
* `SameLayouts.coordinates_eq`, `SameLayouts.merge`: catalogs of the same layouts have one listing
  and are merged alike;
* `verify_faithful`: the verdict, and what follows from its acceptance.
-/

namespace RadarCatalog.Catalog

open RadarCatalog.Json RadarCatalog.Registry

/-! ## 1. What a text holds -/

/-- The text is a JSON list of objects, and the records are made of them in order. -/
def Reads (text : String) (c : Catalog) : Prop :=
  ∃ objects : List (Fields Value),
    Json.read (.listOf .object) text = .ok (.list (objects.map .object)) ∧
      List.Forall₂ (fun fs r => Record.ofFields fs = .ok r) objects c.records

theorem parseRecords_eq_ok {text : String} {c : Catalog} :
    parseRecords text = .ok c ↔ Reads text c := by
  unfold parseRecords Reads
  simp only [← readObjects_eq_ok]
  cases readObjects text with
  | error e => exact ⟨nofun, fun ⟨_, h, _⟩ => (by cases h)⟩
  | ok objects =>
    constructor
    · intro h
      exact ⟨objects, rfl, ofObjects_eq_ok.1 h⟩
    · rintro ⟨_, h, hall⟩
      cases h
      exact ofObjects_eq_ok.2 hall

theorem Reads.unique {text : String} {c c' : Catalog} (h : Reads text c) (h' : Reads text c') :
    c = c' :=
  Except.ok.inj ((parseRecords_eq_ok.2 h).symm.trans (parseRecords_eq_ok.2 h'))

/-! ## 2. The verdict -/

section Verdict

variable (text : String) (expected : Catalog)

/-- The text holds as many records as expected, each with the keys and values expected. -/
def Faithful : Prop := ∃ read, Reads text read ∧ read.SameAs expected

/-- What is wrong with a text: it holds no records; or it holds fewer or more than expected; or the
    first record that is not as expected. -/
inductive Unfaithful : VerifyError → Prop where
  | unreadable {e : CatalogError} (none : ¬ ∃ read, Reads text read)
      (parse : parseRecords text = .error e) : Unfaithful (.unreadable e)
  | count {read : Catalog} (reads : Reads text read) (size : read.size ≠ expected.size) :
      Unfaithful (.count read.size expected.size)
  | record {read : Catalog} {i : Nat} {id : String} (reads : Reads text read)
      (size : read.size = expected.size) (departs : read.DepartsAt expected i)
      (first : ∀ j < i, ¬ read.DepartsAt expected j) (place : expected.ids[i]? = some id) :
      Unfaithful (.record i id)

variable {text expected}

/-- A faithful text has nothing wrong with it. -/
theorem Faithful.not_unfaithful (h : Faithful text expected) (e : VerifyError) :
    ¬ Unfaithful text expected e := by
  obtain ⟨read, hreads, hsame⟩ := h
  intro he
  cases he with
  | unreadable none _ => exact none ⟨read, hreads⟩
  | count reads size =>
    cases hreads.unique reads
    exact size hsame.length_eq
  | record reads _ departs _ _ =>
    cases hreads.unique reads
    obtain ⟨r, r', hr, hr', hnot⟩ := departs
    have hpair := List.getElem?_zip_eq_some (z := (r, r')).2 ⟨hr, hr'⟩
    exact hnot ((List.forall₂_iff_zip.1 hsame).2 (List.mem_of_getElem? hpair))

/-- There is one answer to what is wrong with a text. -/
theorem Unfaithful.unique {e e' : VerifyError} (h : Unfaithful text expected e)
    (h' : Unfaithful text expected e') : e = e' := by
  cases h with
  | unreadable none parse =>
    cases h' with
    | unreadable _ parse' =>
      rw [parse] at parse'
      cases parse'
      rfl
    | count reads _ | record reads _ _ _ _ => exact absurd ⟨_, reads⟩ none
  | count reads size =>
    cases h' with
    | unreadable none _ => exact absurd ⟨_, reads⟩ none
    | count reads' _ =>
      cases reads.unique reads'
      rfl
    | record reads' size' _ _ _ =>
      cases reads.unique reads'
      exact absurd size' size
  | @record read i id reads size departs first place =>
    cases h' with
    | unreadable none _ => exact absurd ⟨_, reads⟩ none
    | count reads' size' =>
      cases reads.unique reads'
      exact absurd size size'
    | @record read' j id' reads' _ departs' first' place' =>
      cases reads.unique reads'
      -- of two places the earlier one would not let the later one be the first
      obtain hlt | rfl | hlt := Nat.lt_trichotomy i j
      · exact absurd departs (first' i hlt)
      · rw [place] at place'
        cases place'
        rfl
      · exact absurd departs' (first j hlt)

/-- **The verification tells which.** -/
theorem verify_judges (h : expected.Valid) :
    match verify text expected with
    | .ok () => Faithful text expected
    | .error e => Unfaithful text expected e := by
  unfold verify
  cases hparse : parseRecords text with
  | error e =>
    refine .unreadable ?_ hparse
    rintro ⟨read, hreads⟩
    rw [parseRecords_eq_ok.2 hreads] at hparse
    cases hparse
  | ok read =>
    have hreads := parseRecords_eq_ok.1 hparse
    have hvalid := valid_of_parseRecords hparse
    by_cases hsize : read.size = expected.size
    · simp only [hsize, ne_eq, not_true_eq_false, if_false]
      cases hfirst : firstDifference read expected with
      | none =>
        have hlayouts := (firstDifference_eq_none hsize).1 hfirst
        exact ⟨read, hreads, (sameLayouts_iff_sameAs hvalid h).1 hlayouts⟩
      | some found =>
        obtain ⟨i, r⟩ := found
        obtain ⟨hr, hdeparts, hleast⟩ := departsAt_of_firstDifference hvalid h hfirst
        refine .record hreads hsize hdeparts hleast ?_
        rw [ids, List.getElem?_map, hr]
        rfl
    · simp only [ne_eq, hsize, not_false_eq_true, if_true]
      exact .count hreads hsize

theorem verify_eq_ok (h : expected.Valid) :
    verify text expected = .ok () ↔ Faithful text expected := by
  have hjudge := @verify_judges text expected h
  constructor
  · intro hok
    rw [hok] at hjudge
    exact hjudge
  · intro hfaithful
    cases hverify : verify text expected with
    | ok => rfl
    | error e =>
      rw [hverify] at hjudge
      exact absurd hjudge (hfaithful.not_unfaithful e)

theorem verify_eq_error (h : expected.Valid) {e : VerifyError} :
    verify text expected = .error e ↔ Unfaithful text expected e := by
  have hjudge := @verify_judges text expected h
  constructor
  · intro herror
    rw [herror] at hjudge
    exact hjudge
  · intro hunfaithful
    cases hverify : verify text expected with
    | ok =>
      rw [hverify] at hjudge
      exact absurd hunfaithful (hjudge.not_unfaithful e)
    | error e' =>
      rw [hverify] at hjudge
      rw [hunfaithful.unique hjudge]

end Verdict

/-! ## 3. What the same layouts lead to -/

theorem magnitudeText_unsigned : ∀ n : Number, magnitudeText n.unsigned = magnitudeText n
  | .integer _ => rfl
  | .real x => congrArg Numeric.Finite.text x.abs_unsigned

theorem isPositive_unsigned : ∀ n : Number, isPositive n.unsigned = isPositive n
  | .integer _ => rfl
  | .real x => x.isPositive_unsigned

theorem Record.number_unsigned (r : Record) (key : String) :
    r.unsigned.number key = (r.number key).map Number.unsigned := by
  unfold number
  rw [get?_unsigned]
  rcases r.get? key with _ | (_ | _ | _ | _)
  all_goals rfl

/-- The line of a record does not show the sign of a zero. -/
theorem coordinateLine_unsigned (r : Record) : coordinateLine r.unsigned = coordinateLine r := by
  simp only [coordinateLine, Record.number_unsigned]
  cases r.number "lat" with
  | error e => rfl
  | ok lat =>
    cases r.number "lon" with
    | error e => rfl
    | ok lon =>
      show Except.ok _ = Except.ok _
      simp only [coordinateText, magnitudeText_unsigned, isPositive_unsigned]

/-- The same value under a key, new or not, keeps records equal but for the signs of zeros. -/
theorem Record.put_congr {r r' : Record} (h : r.unsigned = r'.unsigned) (key : String)
    (value : Scalar) : unsigned { r with fields := Fields.put key value r.fields } =
      unsigned { r' with fields := Fields.put key value r'.fields } := by
  obtain ⟨hid, hfields⟩ := Record.mk.inj h
  simp only [unsigned, Fields.map_put, hid, hfields]

theorem Record.setPosition_congr {r r' : Record} (h : r.unsigned = r'.unsigned)
    (lat lon : Numeric.Binary64) :
    (r.setPosition lat lon).unsigned = (r'.setPosition lat lon).unsigned :=
  put_congr (put_congr h "lat" _) "lon" _

theorem Record.setElevation_congr {r r' : Record} (h : r.unsigned = r'.unsigned)
    (elevation : Option Numeric.Binary64) :
    (r.setElevation elevation).unsigned = (r'.setElevation elevation).unsigned :=
  put_congr h "elevation" _

section Merge

variable (stations : Stations) (allow : Option AllowList)

/-- What a merge does to a record, where no zero has a sign. -/
def outcome (r : Record) : Record × Fate :=
  ((mergeRecord stations allow r).1.unsigned, (mergeRecord stations allow r).2)

/-- Records that are equal but for the signs of zeros meet the same fate, and stay so. -/
theorem outcome_congr {r r' : Record} (h : r.unsigned = r'.unsigned) :
    outcome stations allow r = outcome stations allow r' := by
  obtain ⟨hid, hfields⟩ := Record.mk.inj h
  have hhas : Fields.has r.fields "elevation" = Fields.has r'.fields "elevation" := by
    rw [← Fields.has_map Scalar.unsigned, hfields, Fields.has_map]
  unfold outcome mergeRecord
  rw [hid, hhas]
  cases stations.get? r'.id with
  | none =>
    cases Fields.has r'.fields "elevation" with
    | true => exact Prod.ext h rfl
    | false => exact Prod.ext (Record.setElevation_congr h _) rfl
  | some s =>
    cases allows allow r'.id with
    | true => exact Prod.ext (Record.setElevation_congr (Record.setPosition_congr h _ _) _) rfl
    | false => exact Prod.ext (Record.setElevation_congr h _) rfl

/-- The ids that a merge does not find, read off the outcomes. -/
theorem notFound_eq (c : Catalog) : (merge stations c allow).notFound =
    ((c.records.map (outcome stations allow)).filter fun m => m.2 = .notFound).map
      fun m => m.1.id := by
  simp only [merge, List.filter_map, List.map_map]
  rfl

theorem summary_eq (c : Catalog) : (merge stations c allow).summary =
    let count fate := (c.records.map (outcome stations allow)).countP fun m => m.2 = fate
    ⟨count .full, count .elevationOnly, count .notFound⟩ := by
  simp only [merge, List.countP_map]
  rfl

end Merge

section Catalogs

variable {a b : Catalog} (h : a.SameLayouts b)
include h

/-- **The listing** of catalogs of the same layouts is the same text, or the same error. -/
theorem SameLayouts.coordinates_eq : a.coordinates = b.coordinates := by
  have hlines : a.records.map coordinateLine = b.records.map coordinateLine := by
    refine h.map_eq ?_
    intro r r' hr
    rw [← coordinateLine_unsigned r, hr, coordinateLine_unsigned]
  have hlisting : ∀ c : Catalog, c.coordinates =
      ((c.records.map coordinateLine).mapM id).map fun lines => String.ofList lines.flatten := by
    intro c
    rw [List.mapM_map]
    rfl
  rw [hlisting, hlisting, hlines]

/-- **A merge** of catalogs of the same layouts gives such catalogs, with the same report. -/
theorem SameLayouts.merge (stations : Stations) (allow : Option AllowList) :
    (Catalog.merge stations a allow).catalog.SameLayouts (Catalog.merge stations b allow).catalog ∧
      (Catalog.merge stations a allow).notFound = (Catalog.merge stations b allow).notFound ∧
      (Catalog.merge stations a allow).summary = (Catalog.merge stations b allow).summary := by
  -- catalog and report are read off the outcomes, and these are the same
  have houtcomes : a.records.map (outcome stations allow) =
      b.records.map (outcome stations allow) :=
    h.map_eq (outcome_congr stations allow)
  refine ⟨?_, ?_, ?_⟩
  · unfold SameLayouts
    rw [records_merge, records_merge, List.forall₂_map_left_iff, List.forall₂_map_right_iff]
    refine h.imp ?_
    intro r r' hr
    have houtcome := outcome_congr stations allow (Record.sameLayout_iff.1 hr)
    exact Record.sameLayout_iff.2 (congrArg Prod.fst houtcome)
  · rw [notFound_eq, notFound_eq, houtcomes]
  · rw [summary_eq, summary_eq, houtcomes]

end Catalogs

/-! ## 4. Faithful texts -/

/-- A faithful text of a consistent catalog is accepted, and holds a catalog of the same layouts. -/
theorem exists_parse_of_faithful {text : String} {expected : Catalog} (h : expected.Valid)
    (hconsistent : expected.Consistent) (hfaithful : Faithful text expected) :
    ∃ file, parse text = .ok file ∧ file.SameLayouts expected := by
  obtain ⟨read, hreads, hsame⟩ := hfaithful
  have hparse := parseRecords_eq_ok.2 hreads
  obtain ⟨keys, hkeys⟩ := hconsistent
  -- the keys of each record read are those of the one expected in its place
  have hread : read.ListsKeys keys := by
    have hboth := (List.forall₂_and_left expected.records read.records).2 ⟨hkeys, hsame.flip⟩
    intro r hr
    obtain ⟨r', hr', hrr'⟩ := exists_of_forall₂ hboth.flip r hr
    rw [hrr'.keys, hr']
  obtain ⟨schema, hschema⟩ := consistent_iff.1 ⟨keys, hread⟩
  refine ⟨read, bind_eq_ok.2 ⟨read, hparse, bind_eq_ok.2 ⟨schema, hschema, rfl⟩⟩, ?_⟩
  exact (sameLayouts_iff_sameAs (valid_of_parseRecords hparse) h).2 hsame

/-- **The verification accepts the faithful texts**, tells what is wrong with every other, and what
    it does not see makes no difference: the file of a consistent catalog is read again, lists the
    same coordinates, and is merged alike with all stations. -/
theorem verify_faithful (text : String) (expected : Catalog)
    (h : ∀ r ∈ expected.records, r.Accepted) :
    (verify text expected = .ok () ↔ Faithful text expected) ∧
      (∀ e, verify text expected = .error e ↔ Unfaithful text expected e) ∧
      (verify text expected = .ok () → expected.Consistent →
        ∃ file, parse text = .ok file ∧ file.coordinates = expected.coordinates ∧
          ∀ (stations : Stations) (allow : Option AllowList),
            (merge stations file allow).catalog.SameLayouts
                (merge stations expected allow).catalog ∧
              (merge stations file allow).notFound = (merge stations expected allow).notFound ∧
              (merge stations file allow).summary = (merge stations expected allow).summary) := by
  have hvalid : expected.Valid := fun r hr => Record.accepted_iff_valid.1 (h r hr)
  refine ⟨verify_eq_ok hvalid, fun e => verify_eq_error hvalid, ?_⟩
  intro hok hconsistent
  obtain ⟨file, hparse, hlayouts⟩ :=
    exists_parse_of_faithful hvalid hconsistent ((verify_eq_ok hvalid).1 hok)
  exact ⟨file, hparse, hlayouts.coordinates_eq, hlayouts.merge⟩

/-- A negative zero in the file of a record that has a positive one, and a record too many. -/
theorem verify_faithful_example : ∃ text,
    Catalog.render ⟨[exampleRecord]⟩ .aligned = .ok text ∧ exampleRecord.unsigned ≠ exampleRecord ∧
      verify text ⟨[exampleRecord.unsigned]⟩ = .ok () ∧
      (∃ file, parse text = .ok file ∧
        file.coordinates = Catalog.coordinates ⟨[exampleRecord.unsigned]⟩) ∧
      verify text ⟨[]⟩ = .error (.count 1 0) := by
  have hvalid : Catalog.Valid ⟨[exampleRecord]⟩ :=
    List.forall_mem_singleton.2 exampleRecord_valid
  have hunsigned : exampleRecord.unsigned.Valid := ⟨rfl, by decide, by decide⟩
  obtain ⟨text, ht⟩ := exists_render (c := ⟨[exampleRecord]⟩)
    ⟨exampleRecord.keys, List.forall_mem_singleton.2 rfl⟩ .aligned
  have hreads := parseRecords_eq_ok.1 (parseRecords_render hvalid ht)
  have hsame : Catalog.SameAs ⟨[exampleRecord]⟩ ⟨[exampleRecord.unsigned]⟩ :=
    .cons ((Record.sameLayout_iff_sameAs exampleRecord_valid hunsigned).1 (by decide)) .nil
  obtain ⟨hok, _, hafter⟩ := verify_faithful text ⟨[exampleRecord.unsigned]⟩
    (List.forall_mem_singleton.2 (Record.accepted_iff_valid.2 hunsigned))
  obtain ⟨_, herror, _⟩ := verify_faithful text ⟨[]⟩ nofun
  have hverify := hok.2 ⟨_, hreads, hsame⟩
  obtain ⟨file, hparse, hcoordinates, _⟩ :=
    hafter hverify ⟨exampleRecord.keys, List.forall_mem_singleton.2 (by decide)⟩
  exact ⟨text, ht, by decide, hverify, ⟨file, hparse, hcoordinates⟩,
    (herror _).2 (.count hreads (by decide))⟩

end RadarCatalog.Catalog
