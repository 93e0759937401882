import RadarCatalog.Proofs.Command.Courses

/-!
# Updates are revisions of the texts in their files

A revision goes by texts and an update by files. An update from an input file does to its catalog
what the revision does to a text, and ends as the revision answers.

* `revise_of_prepared`: a revision fails before it has the next text, or not at all.
* `update_eq_revise`: one update through files that are clear. Only the listing of the coordinates
  can fail beyond the revision, and the catalog is written by then.
* `ends_of_session`: any number of updates of one catalog, failed ones among them, are the
  revisions of its text one after the other.
-/

namespace RadarCatalog.Command

open RadarCatalog.Catalog RadarCatalog.Files RadarCatalog.Registry RadarCatalog.Update

/-! ## 1. Revisions -/

/-- The previous catalog of a text, if there is one. -/
def PreviousOf : Option String → Option Catalog → Prop
  | none, previous => previous = none
  | some text, previous => ∃ c, Catalog.parse text = .ok c ∧ previous = some c

/-- What a revision prepares from its texts. -/
structure Prepares (s : Settings) (old : Option String) (v : Revision) (i : Inputs)
    (canonical : Canonical) : Prop where
  previous : PreviousOf old i.previous
  allow : i.allow = v.allow.map (AllowList.parse s.sentinel)
  stations : readSnapshot v.snapshot = .ok i.stations
  canonical : canonicalOf s.policy i.stations = .ok canonical

/-- Why a revision prepares nothing: its catalog is not accepted, or else its snapshot is no list of
    values, or else these do not fit. -/
inductive Unprepared (s : Settings) (old : Option String) (v : Revision) : Failure → Prop where
  | catalog {text : String} {e : CatalogError} (current : old = some text)
      (parse : Catalog.parse text = .error e) : Unprepared s old v (.catalog e)
  | snapshot {previous : Option Catalog} {e : Json.Error} (previous : PreviousOf old previous)
      (read : readSnapshot v.snapshot = .error e) : Unprepared s old v (.snapshotText e)
  | stations {i : Inputs} {f : Failure} (previous : PreviousOf old i.previous)
      (allow : i.allow = v.allow.map (AllowList.parse s.sentinel))
      (read : readSnapshot v.snapshot = .ok i.stations)
      (canonical : canonicalOf s.policy i.stations = .error f) : Unprepared s old v f

section Revision

variable {s : Settings} {old : Option String} {v : Revision}

theorem mapM_parse_eq_ok {previous : Option Catalog} :
    old.mapM (fun text => (Catalog.parse text).mapError Failure.catalog) = .ok previous ↔
      PreviousOf old previous := by
  cases old with
  | none => exact ⟨fun h => (Except.ok.inj h).symm, fun h => congrArg Except.ok h.symm⟩
  | some text =>
    rw [Option.mapM_some, PreviousOf]
    simp only [← mapError_eq_ok (f := Failure.catalog)]
    show _ <$> _ = _ ↔ _
    cases (Catalog.parse text).mapError Failure.catalog with
    | error f => simp
    | ok c => simp [eq_comm]

theorem mapM_parse_eq_error {f : Failure}
    (h : old.mapM (fun text => (Catalog.parse text).mapError Failure.catalog) = .error f) :
    ∃ text e, old = some text ∧ Catalog.parse text = .error e ∧ f = .catalog e := by
  cases old with
  | none => cases h
  | some text =>
    rw [Option.mapM_some] at h
    have h : ((Catalog.parse text).mapError Failure.catalog).map some = .error f := h
    obtain ⟨e, hparse, rfl⟩ := mapError_eq_error.1 (map_eq_error.1 h)
    exact ⟨text, e, rfl, hparse, rfl⟩

theorem Prepares.prepare_eq {i : Inputs} {canonical : Canonical}
    (h : Prepares s old v i canonical) : v.prepare s old =
      .ok (canonical, reconcile s.types canonical.stations i.previous i.allow) := by
  unfold Revision.prepare
  refine bind_eq_ok.2 ⟨i.previous, mapM_parse_eq_ok.2 h.previous, ?_⟩
  refine bind_eq_ok.2 ⟨i.stations, mapError_eq_ok.2 h.stations, ?_⟩
  refine bind_eq_ok.2 ⟨canonical, h.canonical, ?_⟩
  rw [h.allow]
  rfl

/-- **A revision is prepared, or there is a reason why not.** -/
theorem prepares_or_unprepared : (∃ i canonical, Prepares s old v i canonical) ∨
    ∃ f, v.prepare s old = .error f ∧ Unprepared s old v f := by
  cases hprepare : v.prepare s old with
  | ok p =>
    left
    obtain ⟨previous, hprevious, hrest⟩ := bind_eq_ok.1 hprepare
    obtain ⟨stations, hstations, hrest⟩ := bind_eq_ok.1 hrest
    obtain ⟨canonical, hcanonical, _⟩ := bind_eq_ok.1 hrest
    exact ⟨⟨previous, _, stations⟩, canonical, mapM_parse_eq_ok.1 hprevious, rfl,
      mapError_eq_ok.1 hstations, hcanonical⟩
  | error f =>
    refine .inr ⟨f, rfl, ?_⟩
    rcases bind_eq_error.1 hprepare with hcatalog | ⟨previous, hprevious, hrest⟩
    · obtain ⟨text, e, rfl, hparse, rfl⟩ := mapM_parse_eq_error hcatalog
      exact .catalog rfl hparse
    have hprevious := mapM_parse_eq_ok.1 hprevious
    rcases bind_eq_error.1 hrest with hsnapshot | ⟨stations, hread, hrest⟩
    · obtain ⟨e, hread, rfl⟩ := mapError_eq_error.1 hsnapshot
      exact .snapshot hprevious hread
    rcases bind_eq_error.1 hrest with hcanonical | ⟨canonical, _, hpure⟩
    · exact .stations (i := ⟨previous, _, stations⟩) hprevious rfl (mapError_eq_ok.1 hread)
        hcanonical
    · cases hpure

/-- The next catalog of a revision, read again from the text that it gives, is the same. -/
theorem revise_of_prepared {c : Course} (hprepares : Prepares s old v c.inputs c.canonical)
    (hsound : (c.next s).Valid) (hrendered : (c.next s).render v.format = .ok c.text) :
    revise s old v =
      (.ok ⟨c.canonical, c.reconciled s, (c.next s).coordinates⟩, some c.text) := by
  have hrendered' : (c.reconciled s).catalog.render v.format = .ok c.text := hrendered
  have hverified : verify c.text (c.reconciled s).catalog = .ok () :=
    verify_render hsound hrendered
  simp only [Course.reconciled] at hrendered' hverified
  simp only [revise, hprepares.prepare_eq, hrendered', hverified]
  rfl

end Revision

/-! ## 2. The texts in the files of an update -/

/-- The text that a disk holds in a file, if one is named. -/
def TextIs (d : Disk) : Option String → Option String → Prop
  | none, text => text = none
  | some path, text => ∃ t, d.read path = .ok (.text t) ∧ text = some t

/-- The files of the update hold the texts that the revision goes by. -/
structure Texts (r : UpdateRequest) (d : Disk) (old : Option String) (v : Revision) : Prop where
  current : TextIs d r.currentFile old
  allow : TextIs d r.allowFile v.allow
  input : TextIs d r.inputFile (some v.snapshot)
  format : v.format = r.format

section Texts

variable {s : Settings} {r : UpdateRequest} {d : Disk} {old : Option String} {v : Revision}

theorem TextIs.previousIs_iff {file : Option String} (h : TextIs d file old)
    {previous : Option Catalog} : PreviousIs d file previous ↔ PreviousOf old previous := by
  cases file with
  | none =>
    obtain rfl : old = none := h
    rfl
  | some path =>
    obtain ⟨text, hread, rfl⟩ := h
    simp only [PreviousIs, PreviousOf, hread, Except.ok.injEq, Content.text.injEq]
    constructor
    · rintro ⟨_, c, rfl, hparse, hc⟩
      exact ⟨c, hparse, hc⟩
    · rintro ⟨c, hparse, hc⟩
      exact ⟨text, c, rfl, hparse, hc⟩

theorem TextIs.allowIs_iff {file text : Option String} (h : TextIs d file text)
    {sentinel : String} {allow : Option AllowList} :
    AllowIs sentinel d file allow ↔ allow = text.map (AllowList.parse sentinel) := by
  cases file with
  | none =>
    obtain rfl : text = none := h
    rfl
  | some path =>
    obtain ⟨text, hread, rfl⟩ := h
    simp only [AllowIs, hread, Except.ok.injEq, Content.text.injEq, Option.map_some]
    constructor
    · rintro ⟨_, rfl, hallow⟩
      exact hallow
    · intro hallow
      exact ⟨text, rfl, hallow⟩

/-- The input file is named, and holds the snapshot. -/
theorem Texts.exists_input (h : Texts r d old v) :
    ∃ path, r.inputFile = some path ∧ d.read path = .ok (.text v.snapshot) := by
  have hinput := h.input
  cases hfile : r.inputFile with
  | none =>
    rw [hfile] at hinput
    cases hinput
  | some path =>
    rw [hfile] at hinput
    obtain ⟨text, hread, htext⟩ := hinput
    cases htext
    exact ⟨path, rfl, hread⟩

theorem Texts.isSome_input (h : Texts r d old v) : r.inputFile.isSome = true := by
  obtain ⟨path, hpath, _⟩ := h.exists_input
  exact Option.isSome_iff_exists.2 ⟨path, hpath⟩

theorem Texts.stationsAre_iff (h : Texts r d old v) {stations : List Json.Value} :
    StationsAre d r.inputFile stations ↔ readSnapshot v.snapshot = .ok stations := by
  obtain ⟨path, hpath, hread⟩ := h.exists_input
  simp only [hpath, StationsAre, hread, Except.ok.injEq, Content.text.injEq]
  constructor
  · rintro ⟨_, rfl, hstations⟩
    exact hstations
  · intro hstations
    exact ⟨_, rfl, hstations⟩

/-- The inputs of the update are those of the revision. -/
theorem Texts.gathered_iff (h : Texts r d old v) {i : Inputs} : Gathered s r d i ↔
    PreviousOf old i.previous ∧ i.allow = v.allow.map (AllowList.parse s.sentinel) ∧
      readSnapshot v.snapshot = .ok i.stations := by
  rw [← h.current.previousIs_iff, ← h.allow.allowIs_iff, ← h.stationsAre_iff]
  exact ⟨fun h => ⟨h.previous, h.allow, h.stations⟩, fun h => ⟨h.1, h.2.1, h.2.2⟩⟩

/-- **The course of an update is the revision** of the texts in its files. -/
theorem Texts.revise_eq (h : Texts r d old v) {c : Course} (hc : c.Wrote s r d) :
    revise s old v =
      (.ok ⟨c.canonical, c.reconciled s, (c.next s).coordinates⟩, some c.text) := by
  obtain ⟨hprevious, hallow, hstations⟩ := h.gathered_iff.1 hc.inputs
  refine revise_of_prepared ⟨hprevious, hallow, hstations, hc.canonical⟩ (sound_next hc.inputs).1 ?_
  rw [h.format]
  exact hc.rendered

end Texts

theorem texts_moving : Texts movingRequest exampleDisk (some exampleText)
    ⟨exampleSnapshot, some "id,by\nA,HOMR\n", .aligned⟩ :=
  ⟨⟨_, rfl, rfl⟩, ⟨_, rfl, rfl⟩, ⟨_, rfl, rfl⟩, rfl⟩

/-- The texts of an update that moves a station, revised. -/
theorem revise_example : ∃ report text,
    revise .standard (some exampleText) ⟨exampleSnapshot, some "id,by\nA,HOMR\n", .aligned⟩ =
        (.ok report, some text) ∧
      report.reconciled.catalog = movedCatalog ∧
      report.coordinates = .ok "1.5N 2.5W\n3N 4E\n" := by
  obtain ⟨c, w, hgone, _, _, _, _, hnext, hlisting⟩ := exists_run_example .absent
  refine ⟨_, _, texts_moving.revise_eq hgone.course.toWrote, hnext, ?_⟩
  rw [← hlisting]
  exact hgone.course.listed rfl

/-! ## 3. One update -/

/-- How an update ends whose revision answers this: a listing that is wanted has to be there too. -/
def answerOf (r : UpdateRequest) : Except Failure Report → Except Abort Unit
  | .error f => .error (.update f)
  | .ok report =>
    match r.coordFile, report.coordinates with
    | some _, .error e => .error (.update (.coordinate e))
    | _, _ => .ok ()

/-- The task ends like this, in the second world. -/
def Ends {α : Type} (t : Task (StateM World) α) (w : World) (x : Except Abort α) (w' : World) :
    Prop :=
  (ExceptT.run t w : Except Abort α × World) = (x, w')

section Update

variable {web : Web (StateM World)} {s : Settings} {r : UpdateRequest} {old : Option String}
  {v : Revision} {target : String} {w : World}

/-- A current catalog that is not accepted ends the update before the stations are looked for. -/
theorem fails_gather_of_parse {text : String} {e : CatalogError}
    (hcurrent : TextIs w.disk r.currentFile (some text)) (hparse : Catalog.parse text = .error e) :
    ∃ w', Fails (gather web s r) w (.update (.catalog e)) w' ∧ w'.disk = w.disk := by
  cases hfile : r.currentFile with
  | none =>
    rw [hfile] at hcurrent
    cases hcurrent
  | some path =>
    rw [hfile] at hcurrent
    obtain ⟨t, hread, ht⟩ := hcurrent
    cases ht
    have hcatalog : Fails (readPrevious (m := StateM World) r.currentFile) w (.update (.catalog e))
        (w.logged (previousLog r.currentFile)) := by
      rw [hfile, readPrevious]
      refine fails_say_bind.2 (fails_bind.2 (.inl ?_))
      exact fails_bind.2 (.inr ⟨text, _, runs_readText.2 ⟨hread, rfl⟩,
        fails_check.2 ⟨e, hparse, rfl, rfl⟩⟩)
    exact ⟨_, fails_bind.2 (.inl hcatalog), rfl⟩

/-- An input file that holds no list of values ends the update once the other inputs are read. -/
theorem fails_gather_of_readSnapshot (htexts : Texts r w.disk old v) {previous : Option Catalog}
    (hprevious : PreviousOf old previous) {e : Json.Error}
    (hsnapshot : readSnapshot v.snapshot = .error e) :
    ∃ w', Fails (gather web s r) w (.update (.snapshotText e)) w' ∧ w'.disk = w.disk := by
  obtain ⟨path, hpath, hread⟩ := htexts.exists_input
  let i : Inputs := ⟨previous, v.allow.map (AllowList.parse s.sentinel), []⟩
  have hload : Fails (loadStations web s r) (w.logged (readLog r i)) (.update (.snapshotText e))
      ((w.logged (readLog r i)).logged (stationsLog (some path))) := by
    simp only [loadStations, hpath]
    refine fails_say_bind.2 (fails_bind.2 (.inr ⟨v.snapshot, _, runs_readText.2 ⟨hread, rfl⟩, ?_⟩))
    exact fails_check.2 ⟨e, hsnapshot, rfl, rfl⟩
  exact ⟨_, fails_gatherFrom_of_load (htexts.current.previousIs_iff.2 hprevious)
    (htexts.allow.allowIs_iff.2 rfl) hload, rfl⟩

/-- **An update fails as its revision does**, and leaves the catalog alone. -/
theorem fails_of_unprepared (hclear : Clear r target w.disk) (htexts : Texts r w.disk old v)
    {f : Failure} (h : Unprepared s old v f) : ∃ w', Fails (update web s r) w (.update f) w' ∧
      Disk.ChangesOnly (ownFiles r.snapshotFile) w.disk w'.disk := by
  have htarget : r.target.isSome = true := Option.isSome_iff_exists.2 ⟨target, hclear.given⟩
  cases h with
  | catalog current parse =>
    obtain ⟨w', hfails, hdisk⟩ := fails_gather_of_parse (current ▸ htexts.current) parse
    exact ⟨w', fails_updateFrom_of_gather htarget hfails, hdisk ▸ .refl _ _⟩
  | snapshot previous read =>
    obtain ⟨w', hfails, hdisk⟩ := fails_gather_of_readSnapshot htexts previous read
    exact ⟨w', fails_updateFrom_of_gather htarget hfails, hdisk ▸ .refl _ _⟩
  | @stations i _ previous allow read canonical =>
    obtain ⟨d, hsaved⟩ := exists_saves hclear.snapshot (snapshotText i.stations)
    have hgather : Runs (gather web s r) w i (w.logged (gatherLog r i)) :=
      (runs_gather htexts.isSome_input).2 ⟨htexts.gathered_iff.2 ⟨previous, allow, read⟩, rfl⟩
    obtain ⟨w', hfails, hdisk⟩ :=
      fails_update_of_canonicalOf hclear.given hgather hsaved canonical
    exact ⟨w', hfails, hdisk ▸ saves_changesOnly hsaved⟩

theorem answerOf_of_listed {d : Disk} {c : Course} (hc : c.Listed s r d) :
    answerOf r (.ok ⟨c.canonical, c.reconciled s, (c.next s).coordinates⟩) = .ok () := by
  cases hfile : r.coordFile with
  | none => simp only [answerOf, hfile]
  | some path =>
    have hlisting := hc.listed (Option.isSome_iff_exists.2 ⟨path, hfile⟩)
    simp only [answerOf, hfile, hlisting]

/-- **An update writes what its revision gives**, and ends with its listing. -/
theorem ends_of_prepares (hclear : Clear r target w.disk) (htexts : Texts r w.disk old v)
    {i : Inputs} {canonical : Canonical} (h : Prepares s old v i canonical) :
    ∃ report text w', revise s old v = (.ok report, some text) ∧
      Ends (update web s r) w (answerOf r (.ok report)) w' ∧ w'.disk.Holds target text ∧
      Disk.ChangesOnly (writtenFiles r target) w.disk w'.disk := by
  have hgathered : Gathered s r w.disk i := htexts.gathered_iff.2 ⟨h.previous, h.allow, h.stations⟩
  have hgather : Runs (gather web s r) w i (w.logged (gatherLog r i)) :=
    (runs_gather htexts.isSome_input).2 ⟨hgathered, rfl⟩
  obtain ⟨c, hc, rfl, rfl, rfl⟩ := exists_wrote hclear hgathered h.canonical
  by_cases hlisting : ∃ path e, r.coordFile = some path ∧ (c.next s).coordinates = .error e
  · obtain ⟨path, e, hfile, hlisting⟩ := hlisting
    obtain ⟨w', hfails, hdisk⟩ := fails_update_of_coordinates hc hgather rfl hfile hlisting
    refine ⟨_, _, w', htexts.revise_eq hc, ?_, hdisk ▸ hc.written.holds,
      hdisk ▸ hc.changesOnly_files⟩
    simp only [answerOf, hfile, hlisting]
    exact hfails
  · have hlisted : r.coordFile.isSome = true → ∃ text, (c.next s).coordinates = .ok text := by
      intro hsome
      obtain ⟨path, hfile⟩ := Option.isSome_iff_exists.1 hsome
      cases hcoordinates : (c.next s).coordinates with
      | ok text => exact ⟨text, rfl⟩
      | error e => exact absurd ⟨path, e, hfile, hcoordinates⟩ hlisting
    obtain ⟨c', hc', hi, _, htarget⟩ := exists_course hclear hgathered hc.canonical hlisted
    rw [← hi] at hgather
    rw [← htarget] at hclear ⊢
    obtain ⟨w', hruns, hdisk⟩ : ∃ w', Runs (update web s r) w () w' ∧ w'.disk = c'.final :=
      ⟨_, hc'.runs hgather rfl, rfl⟩
    refine ⟨_, _, w', htexts.revise_eq hc'.toWrote, ?_, hdisk ▸ hc'.toListed.holds hclear.apart,
      hdisk ▸ hc'.toListed.changesOnly⟩
    rw [answerOf_of_listed hc'.toListed]
    exact hruns

/-- **An update does what the revision of its texts does.** It ends as the revision answers. The
    catalog has the text of the revision then, and is left alone if there is none. -/
theorem update_eq_revise (hclear : Clear r target w.disk) (htexts : Texts r w.disk old v) :
    ∃ w', Ends (update web s r) w (answerOf r (revise s old v).1) w' ∧
      Disk.ChangesOnly (writtenFiles r target) w.disk w'.disk ∧
      (∀ report, (revise s old v).1 = .ok report →
        ∃ text, (revise s old v).2 = some text ∧ w'.disk.Holds target text) ∧
      (∀ f, (revise s old v).1 = .error f → (revise s old v).2 = old ∧
        Disk.ChangesOnly (ownFiles r.snapshotFile) w.disk w'.disk) := by
  rcases @prepares_or_unprepared s old v with ⟨i, canonical, h⟩ | ⟨f, hf, h⟩
  · obtain ⟨report, text, w', hrevise, hends, hholds, hchanges⟩ := ends_of_prepares hclear htexts h
    rw [hrevise]
    exact ⟨w', hends, hchanges, fun _ _ => ⟨text, rfl, hholds⟩, fun _ h => (by cases h)⟩
  · have hrevise : revise s old v = (.error f, old) := by simp only [revise, hf]
    obtain ⟨w', hfails, hchanges⟩ := fails_of_unprepared hclear htexts h
    rw [hrevise]
    exact ⟨w', hfails, hchanges.mono fun _ hp => List.mem_append_left _ hp,
      fun _ h => (by cases h), fun _ _ => ⟨rfl, hchanges⟩⟩

end Update

/-! ## 4. Updates one after the other -/

/-- The text that a file has at a location, if there is one. -/
def textAt (d : Disk) (l : Location) : Option String :=
  match d.lookup? l with
  | some (.file (.text text)) => some text
  | _ => none

/-- Updates from input files, each of the catalog at the location and by the texts of a revision.
    What is kept of each of them is how it ends and the text that it leaves. -/
inductive Session (web : Web (StateM World)) (s : Settings) (l : Location) :
    List (UpdateRequest × Revision) → List (Except Abort Unit × Option String) → World → Prop where
  | rest {w : World} : Session web s l [] [] w
  | step {r : UpdateRequest} {v : Revision} {target : String} {x : Except Abort Unit}
      {runs : List (UpdateRequest × Revision)} {ends : List (Except Abort Unit × Option String)}
      {w w₁ w₂ : World} (kept : textAt w₁.disk l = textAt w.disk l)
      (clear : Clear r target w₁.disk) (place : w₁.disk.locate target = .ok l)
      (texts : Texts r w₁.disk (textAt w₁.disk l) v) (first : Ends (update web s r) w₁ x w₂)
      (rest : Session web s l runs ends w₂) :
      Session web s l ((r, v) :: runs) ((x, textAt w₂.disk l) :: ends) w

/-- The text of the catalog after one update. -/
theorem textAt_of_ends {web : Web (StateM World)} {s : Settings} {r : UpdateRequest} {v : Revision}
    {target : String} {l : Location} {x : Except Abort Unit} {w w' : World}
    (hclear : Clear r target w.disk) (hplace : w.disk.locate target = .ok l)
    (htexts : Texts r w.disk (textAt w.disk l) v) (h : Ends (update web s r) w x w') :
    (x, textAt w'.disk l) =
      (answerOf r (revise s (textAt w.disk l) v).1, (revise s (textAt w.disk l) v).2) := by
  obtain ⟨w₁, hends, hchanges, hok, herror⟩ := update_eq_revise hclear htexts
  obtain ⟨rfl, rfl⟩ := Prod.mk.inj (h.symm.trans hends)
  refine congrArg (Prod.mk _) ?_
  cases hrevise : (revise s (textAt w.disk l) v).1 with
  | ok report =>
    obtain ⟨text, htext, hholds⟩ := hok report hrevise
    have hentry := hholds.entryAt
    rw [Disk.entryAt_of_locate (hchanges.locate.2 hplace)] at hentry
    rw [htext, textAt, hentry]
  | error f =>
    obtain ⟨htext, hkept⟩ := herror f hrevise
    rw [htext, textAt, hkept.kept l, ← textAt]
    intro p hp hl
    refine (List.pairwise_append.1 hclear.apart).2.2 p hp target ?_ l hl hplace
    exact List.mem_append_left _ (List.mem_cons_of_mem _ List.mem_cons_self)

/-- **Any number of updates of one catalog** are the revisions of its text one after the other: they
    end as these answer, and leave the texts that these give. Between two of them anything may happen
    that leaves the catalog alone. -/
theorem ends_of_session {web : Web (StateM World)} {s : Settings} {l : Location}
    {runs : List (UpdateRequest × Revision)} {ends : List (Except Abort Unit × Option String)}
    {w : World} (h : Session web s l runs ends w) :
    ends = List.zipWith (fun run step => (answerOf run.1 step.1, step.2)) runs
      (reviseAll s (textAt w.disk l) (runs.map Prod.snd)) := by
  induction h with
  | rest => rfl
  | step kept clear place texts first rest ih =>
    rw [← kept, ih, textAt_of_ends clear place texts first]
    have htext := congrArg Prod.snd (textAt_of_ends clear place texts first)
    simp only at htext
    rw [htext]
    rfl

end RadarCatalog.Command
