import RadarCatalog.Proofs.Command.Courses

/-!
# The same update once more

An update in place that succeeds leaves a disk on which the same update finds nothing to do: the
merge gives the catalog that is in the file, and every file that is written has its text already.

* `Rests` is what the first update leaves; `exists_course_of_rests` is the second one on it.
* `rerun_changes_nothing` is the result for the whole program, settings and log included.
-/

namespace RadarCatalog.Command

open RadarCatalog.Catalog RadarCatalog.Files RadarCatalog.Registry RadarCatalog.Update

variable {web : Web (StateM World)}

/-! ## 1. What the first update leaves -/

/-- The disk holds all that an update of the file would write, and inputs that lead to it. -/
structure Rests (c : Course) (s : Settings) (r : UpdateRequest) (d : Disk) : Prop where
  inputs : Gathered s r d ⟨some (c.next s), c.inputs.allow, c.inputs.stations⟩
  snapshot : HoldsIn d r.snapshotFile (snapshotText c.inputs.stations)
  catalog : d.Holds c.target c.text
  listing : HoldsIn d r.coordFile c.listing

section Rerun

variable {s : Settings} {r : UpdateRequest} {d : Disk} {c : Course} {file : String}

theorem target_of_inPlace (hc : c.Prepared s r d) (hcurrent : r.currentFile = some file)
    (hupdated : r.updatedFile = none) : c.target = file := by
  have h := hc.target
  rw [hcurrent, hupdated] at h
  exact (Option.some.inj h).symm

/-- **The first update leaves a disk at rest.** -/
theorem rests_of_course (hc : c.Of s r d) (hcurrent : r.currentFile = some file)
    (hupdated : r.updatedFile = none) (hwritten : (writtenFiles r file).Pairwise d.Apart)
    (hinputs : ∀ p ∈ inputFiles r, ∀ q ∈ writtenFiles r file, d.Apart p q) :
    Rests c s r c.final := by
  obtain rfl := target_of_inPlace hc.toPrepared hcurrent hupdated
  have hcatalog := hc.toListed.holds hwritten
  refine ⟨⟨?_, ?_, ?_⟩, hc.toListed.goesBy.holdsIn_snapshot hwritten, hcatalog,
    holdsIn_of_saves hc.final⟩
  · rw [hcurrent]
    exact ⟨c.text, _, hcatalog.read, parse_text hc.toWrote, rfl⟩
  · exact hc.inputs.allow.of_changesOnly hc.toListed.changesOnly fun p hp =>
      hinputs p (List.mem_append_right _ hp)
  · exact hc.inputs.stations.of_changesOnly hc.toListed.changesOnly fun p hp =>
      hinputs p (List.mem_append_left _ hp)

/-! ## 2. The second update -/

/-- Reconciling the next catalog once more gives the same, report and all. -/
theorem reconcile_next {previous : Catalog} (h : c.inputs.previous = some previous) :
    reconcile s.types c.canonical.stations (some (c.next s)) c.inputs.allow = c.reconciled s := by
  simp only [Course.next, Course.reconciled, h, reconcile, merge_merge]

/-- The disk holds the inputs of a course, and all that it writes. -/
structure Course.Settled (c : Course) (s : Settings) (r : UpdateRequest) (d : Disk) : Prop where
  target : r.updatedFile.or r.currentFile = some c.target
  inputs : Gathered s r d c.inputs
  canonical : canonicalOf s.policy c.inputs.stations = .ok c.canonical
  rendered : (c.next s).render r.format = .ok c.text
  listed : r.coordFile.isSome = true → (c.next s).coordinates = .ok c.listing
  snapshot : HoldsIn d r.snapshotFile (snapshotText c.inputs.stations)
  catalog : d.Holds c.target c.text
  listing : HoldsIn d r.coordFile c.listing

/-- **A settled course** can be gone, and changes no file. -/
theorem Course.Settled.exists_course (h : c.Settled s r d) : ∃ d₁ d₂ d₃,
    Course.Of { c with saved := d₁, written := d₂, final := d₃ } s r d ∧ Disk.SameFiles d d₃ := by
  obtain ⟨d₁, hd₁, hsame₁⟩ := h.snapshot.saves
  obtain ⟨d₂, hd₂, hsame₂⟩ := (h.catalog.of_sameFiles hsame₁).replaces
  have hsame₁₂ := hsame₁.trans hsame₂
  obtain ⟨d₃, hd₃, hsame₃⟩ := (h.listing.of_sameFiles hsame₁₂).saves
  have hsame := hsame₁₂.trans hsame₃
  refine ⟨d₁, d₂, d₃, ⟨⟨⟨⟨h.target, h.inputs, hd₁, h.canonical⟩, h.rendered, hd₂⟩, h.listed,
    hd₃⟩, ?_⟩, hsame⟩
  intro _
  exact ⟨c.text, (h.catalog.of_sameFiles hsame).read,
    verify_render (sound_next h.inputs).1 h.rendered⟩

/-- **An update at rest** goes the same course, with the same results, and changes no file. -/
theorem exists_course_of_rests {d' : Disk} (hc : c.Of s r d) {previous : Catalog}
    (hprevious : c.inputs.previous = some previous) (h : Rests c s r d') : ∃ c' : Course,
      c'.Of s r d' ∧ c'.inputs = ⟨some (c.next s), c.inputs.allow, c.inputs.stations⟩ ∧
        c'.resultLog s r = c.resultLog s r ∧ Disk.SameFiles d' c'.final := by
  have hreconciled := reconcile_next (s := s) hprevious
  let i : Inputs := ⟨some (c.next s), c.inputs.allow, c.inputs.stations⟩
  have hnext : Course.next { c with inputs := i } s = c.next s :=
    congrArg Reconciled.catalog hreconciled
  have hsettled : Course.Settled { c with inputs := i } s r d' := by
    refine ⟨hc.target, h.inputs, hc.canonical, ?_, ?_, h.snapshot, h.catalog, h.listing⟩
    · rw [hnext]
      exact hc.rendered
    · rw [hnext]
      exact hc.listed
  obtain ⟨d₁, d₂, d₃, hcourse, hsame⟩ := hsettled.exists_course
  refine ⟨_, hcourse, rfl, ?_, hsame⟩
  have hlog : Course.reconciled { c with inputs := i } s = c.reconciled s := hreconciled
  show _ ++ (computeLog _ _ (Course.reconciled { c with inputs := i } s) ++ _) = _
  rw [hlog]
  rfl

end Rerun

/-! ## 3. The whole program -/

/-- The files that a run of an update in place names: those that it writes, with their temporary
    names, and those that it reads, the settings among them. -/
def namedFiles (e : Environment) (c : CommandLine) (r : UpdateRequest) (file : String) :
    List String :=
  writtenFiles r file ++ (inputFiles r ++ [c.settingsFile.getD e.standardFile])

/-- The log of a run. -/
def journalOf (web : Web (StateM World)) (e : Environment) (c : CommandLine) (disk : Disk) :
    List Log.Entry :=
  ((execute web e.standardFile c).run ⟨disk, [], ""⟩ :
    Except Abort Unit × World).2.journal

theorem journalOf_of_runs {e : Environment} {c : CommandLine} {disk : Disk} {u : Unit} {w : World}
    (h : Runs (execute web e.standardFile c) ⟨disk, [], ""⟩ u w) :
    journalOf web e c disk = w.journal :=
  congrArg (fun x : Except Abort Unit × World => x.2.journal) h

/-- The report on a merge is part of the log. -/
theorem mergeLog_infix_resultLog {c : Course} {s : Settings} {r : UpdateRequest} {m : Merge}
    (h : (c.reconciled s).merge = some m) : mergeLog m <:+: c.resultLog s r := by
  have hcompute : mergeLog m <:+: computeLog c.inputs.stations c.canonical (c.reconciled s) := by
    unfold computeLog reconciledLog
    rw [h, ← List.cons_append]
    exact (List.suffix_append _ _).isInfix
  exact hcompute.trans ((List.prefix_append _ _).isInfix.trans (List.suffix_append _ _).isInfix)

theorem exists_previous {c : Course} {s : Settings} {r : UpdateRequest} {d : Disk} {file : String}
    (hc : c.Prepared s r d) (hcurrent : r.currentFile = some file) :
    ∃ previous, c.inputs.previous = some previous := by
  have hprevious := hc.inputs.previous
  rw [hcurrent] at hprevious
  obtain ⟨_, previous, _, _, hprevious⟩ := hprevious
  exact ⟨previous, hprevious⟩

/-- An update with a current file merges. -/
theorem exists_merge {c : Course} {s : Settings} {r : UpdateRequest} {d : Disk} {file : String}
    (hc : c.Prepared s r d) (hcurrent : r.currentFile = some file) :
    ∃ m, c.reconciled s = ⟨some m, m.catalog⟩ := by
  obtain ⟨previous, hprevious⟩ := exists_previous hc hcurrent
  refine ⟨merge c.canonical.stations previous c.inputs.allow, ?_⟩
  simp only [Course.reconciled, hprevious, reconcile]

/-- Stations that are loaded are loaded again when only other files have changed. -/
theorem Loads.of_changesOnly {s : Settings} {r : UpdateRequest} {d d' : Disk} {paths : List String}
    (hc : Disk.ChangesOnly paths d d')
    (hapart : ∀ p ∈ r.inputFile.toList, ∀ q ∈ paths, d.Apart p q) {stations : List Json.Value}
    {es : List Log.Entry} (h : Loads web s r d stations es) : Loads web s r d' stations es := by
  cases hinput : r.inputFile with
  | none =>
    simp only [Loads, hinput] at h ⊢
    exact h
  | some path =>
    simp only [Loads, hinput] at h ⊢
    rw [hinput] at hapart
    exact ⟨h.1.of_changesOnly hc hapart, h.2⟩

/-- **The second run** on the disk that the first one left: it loads the same stations, adds the same
    to the log and changes no file, and the catalog of the merge is in the file. -/
theorem exists_second_run {e : Environment} {c : CommandLine} {r : UpdateRequest} {file : String}
    {disk : Disk} {s : Settings} {course : Course} {m : Merge} {es : List Log.Entry}
    (hr : c.request = .update r) (hcurrent : r.currentFile = some file)
    (hupdated : r.updatedFile = none) (hapart : (namedFiles e c r file).Pairwise disk.Apart)
    (hs : SettingsAre disk e.standardFile c.settingsFile s) (hcourse : course.Of s r disk)
    (hloads : Loads web s r disk course.inputs.stations es)
    (hmerge : course.reconciled s = ⟨some m, m.catalog⟩) : ∃ d',
    Runs (execute web e.standardFile c) ⟨course.final, [], ""⟩ ()
        ((World.logged ⟨course.final, [], ""⟩
          (readLog r course.inputs ++ (es ++ course.resultLog s r))).on d') ∧
      Disk.SameFiles course.final d' ∧
      ∃ text, d'.read file = .ok (.text text) ∧ Catalog.parse text = .ok m.catalog := by
  obtain ⟨hwritten, _, hacross⟩ := List.pairwise_append.1 hapart
  have hinputs : ∀ p ∈ inputFiles r ++ [c.settingsFile.getD e.standardFile],
      ∀ q ∈ writtenFiles r file, disk.Apart p q :=
    fun p hp q hq => (hacross q hq p hp).symm
  have hrests := rests_of_course hcourse hcurrent hupdated hwritten fun p hp =>
    hinputs p (List.mem_append_left _ hp)
  obtain ⟨previous, hprevious⟩ := exists_previous hcourse.toPrepared hcurrent
  obtain ⟨course', hcourse', hi, hlog, hsame⟩ := exists_course_of_rests hcourse hprevious hrests
  have htarget := target_of_inPlace hcourse.toPrepared hcurrent hupdated
  have hchanges := hcourse.toListed.changesOnly
  rw [htarget] at hchanges
  have hs' := hs.of_changesOnly hchanges (hinputs _ (List.mem_append_right _ List.mem_cons_self))
  have hread : readLog r course'.inputs = readLog r course.inputs := by
    simp only [readLog, hi, warnUnused, hprevious, Option.isNone_some]
  let w : World := ⟨course.final, [], ""⟩
  have hload : Runs (loadStations web s r) (w.logged (readLog r course'.inputs))
      course'.inputs.stations ((w.logged (readLog r course'.inputs)).logged es) := by
    refine Loads.runs ?_
    rw [hi]
    refine hloads.of_changesOnly hchanges ?_
    intro p hp
    exact hinputs p (List.mem_append_left _ (List.mem_append_left _ hp))
  have hgather : Runs (gather web s r) w course'.inputs _ :=
    runs_gatherFrom.2 ⟨hcourse'.inputs.previous, hcourse'.inputs.allow, hload⟩
  refine ⟨course'.final, ?_, hsame, course.text, ?_, ?_⟩
  · have hrun := hcourse'.runs hgather rfl
    rw [World.logged_logged, World.logged_logged, hread, hlog] at hrun
    exact (runs_execute hr).2 ⟨s, hs', hrun⟩
  · rw [hsame.read, ← htarget]
    exact hrests.catalog.read
  · have hcatalog : course.next s = m.catalog := congrArg Reconciled.catalog hmerge
    rw [← hcatalog]
    exact parse_text hcourse.toWrote

/-- **Running an update in place again changes nothing.** If the files that it names are different
    ones and it succeeds, then the same run succeeds again, reports the same merge, with the catalog
    that is in the file, in the same log, and leaves every file as the first run left it. An update
    without an input file does so as long as the registry answers alike. -/
theorem rerun_changes_nothing {e : Environment} {c : CommandLine} {r : UpdateRequest}
    {file : String} {disk : Disk} (hr : c.request = .update r)
    (hsteady : r.inputFile = none → web.IsSteady)
    (hcurrent : r.currentFile = some file) (hupdated : r.updatedFile = none)
    (hapart : (namedFiles e c r file).Pairwise disk.Apart)
    (hcode : (transcribeCommand web e c disk).code = 0) :
    let first := transcribeCommand web e c disk
    let second := transcribeCommand web e c first.disk
    second.code = 0 ∧
      (∃ m : Merge, mergeLog m <:+: journalOf web e c disk ∧
        mergeLog m <:+: journalOf web e c first.disk ∧
        ∃ text, second.disk.read file = .ok (.text text) ∧ Catalog.parse text = .ok m.catalog) ∧
      journalOf web e c first.disk = journalOf web e c disk ∧ second.lines = first.lines ∧
      second.output = first.output ∧
      ∀ path, second.disk.read path = first.disk.read path := by
  intro first second
  obtain ⟨w, hrun⟩ := code_eq_zero.1 hcode
  obtain ⟨s, hs, hupdate⟩ := (runs_execute hr).1 hrun
  have hstill : r.inputFile = none → web.Still := by
    intro hnone
    obtain ⟨answers, rfl⟩ := hsteady hnone
    exact Web.still_steady answers
  obtain ⟨course, w₁, hgather, hcourse, hw⟩ := course_of_runs (supplies_loadStations hstill) hupdate
  obtain ⟨es, hloads, hw₁⟩ := exists_loads hsteady (runs_gatherFrom.1 hgather).2.2
  rw [World.logged_logged] at hw₁
  have hdisk₁ : w₁.disk = disk := by rw [hw₁]; rfl
  obtain ⟨_, rfl⟩ := hupdate.unique (hcourse.runs hgather hdisk₁)
  obtain ⟨m, hmerge⟩ := exists_merge hcourse.toPrepared hcurrent
  obtain ⟨d', hrun', hsame, hcatalog⟩ :=
    exists_second_run hr hcurrent hupdated hapart hs hcourse hloads hmerge
  have hfirst : first = _ := transcribeCommand_of_runs hrun
  have hdisk : first.disk = course.final := congrArg Transcript.disk hfirst
  rw [← hdisk] at hrun' hsame
  have hsecond : second = _ := transcribeCommand_of_runs hrun'
  have hjournal : journalOf web e c first.disk = journalOf web e c disk := by
    rw [journalOf_of_runs hrun, journalOf_of_runs hrun', hw₁]
    simp only [World.logged_logged, List.append_assoc]
    rfl
  have hreport : mergeLog m <:+: journalOf web e c disk := by
    rw [journalOf_of_runs hrun]
    exact (mergeLog_infix_resultLog (congrArg Reconciled.merge hmerge)).trans
      (List.suffix_append _ _).isInfix
  refine ⟨?_, ⟨m, hreport, ?_, ?_⟩, hjournal, ?_, ?_, ?_⟩
  · rw [hsecond]
  · rw [hjournal]
    exact hreport
  · rw [hsecond]
    exact hcatalog
  · rw [hsecond, hfirst, hw₁]
    simp only [World.logged_logged, List.append_assoc]
    rfl
  · rw [hsecond, hfirst, hw₁]
    rfl
  · intro path
    rw [hsecond]
    exact hsame.read path

/-- The update from the snapshot moves a station, and leaves the catalog, the snapshot and the listing
    behind; the same update once more changes nothing. -/
theorem rerun_changes_nothing_example :
    let first := transcribeCommand exampleWeb exampleEnvironment (lineOf (.update movingRequest))
      exampleDisk
    let second := transcribeCommand exampleWeb exampleEnvironment (lineOf (.update movingRequest))
      first.disk
    first.code = 0 ∧ second.code = 0 ∧
      (∃ text, first.disk.read "sites" = .ok (.text text) ∧
        Catalog.parse text = .ok movedCatalog) ∧
      (∃ stations, first.disk.read "saved" = .ok (.text (snapshotText stations))) ∧
      first.disk.read "coords" = .ok (.text "1.5N 2.5W\n3N 4E\n") ∧
      ∀ path, second.disk.read path = first.disk.read path := by
  obtain ⟨c, w, hgone, htarget, _, _, _, hnext, hlisting⟩ := exists_run_example exampleWeb
  have hrun : Runs (execute exampleWeb exampleEnvironment.standardFile
      (lineOf (.update movingRequest))) ⟨exampleDisk, [], ""⟩ () w :=
    (runs_execute rfl).2 ⟨.standard, settingsAre_example, hgone.runs⟩
  have hcode : (transcribeCommand exampleWeb exampleEnvironment (lineOf (.update movingRequest))
      exampleDisk).code = 0 := code_eq_zero.2 ⟨w, hrun⟩
  have hdisk : (transcribeCommand exampleWeb exampleEnvironment (lineOf (.update movingRequest))
      exampleDisk).disk = c.final := by
    rw [transcribeCommand_of_runs hrun, hgone.final]
  have hwritten : (writtenFiles movingRequest c.target).Pairwise exampleDisk.Apart := by
    rw [htarget]
    exact clear_moving.apart
  have hparse := parse_text hgone.course.toWrote
  have hcatalog := (hgone.course.toListed.holds hwritten).read
  rw [hnext] at hparse
  rw [htarget] at hcatalog
  have hapart : (namedFiles exampleEnvironment (lineOf (.update movingRequest)) movingRequest
      "sites").Pairwise exampleDisk.Apart := by decide
  obtain ⟨hsecond, _, _, _, _, hsame⟩ := @rerun_changes_nothing exampleWeb exampleEnvironment
    (lineOf (.update movingRequest)) movingRequest "sites" exampleDisk rfl
    (fun _ => ⟨exampleAnswers, rfl⟩) rfl rfl hapart hcode
  refine ⟨hcode, hsecond, ⟨c.text, ?_, hparse⟩, ⟨c.inputs.stations, ?_⟩, ?_, hsame⟩
  · rw [hdisk]
    exact hcatalog
  · rw [hdisk]
    exact (hgone.course.toListed.goesBy.holdsIn_snapshot hwritten "saved" rfl).read
  · rw [hdisk, ← hlisting]
    exact (holdsIn_of_saves hgone.course.final "coords" rfl).read

end RadarCatalog.Command
