import RadarCatalog.Proofs.Command.Stages

/-!
# Whole updates

* `Course` collects what a successful update reads, computes and leaves. An update succeeds along
  such a course only (`course_of_runs`); along one with an input file it does succeed
  (`runs_update`), whatever the registry would have.
* `Stops` lists the places where an update can fail, with the disk that it leaves there;
  `stops_of_fails` says that there are no others.
-/

namespace RadarCatalog.Command

open RadarCatalog.Catalog RadarCatalog.Files RadarCatalog.Registry RadarCatalog.Update

/-! ## 1. The two halves of an update -/

/-- What an update reads. -/
structure Inputs where
  previous : Option Catalog
  allow : Option AllowList
  stations : List Json.Value

/-- The warning on an allow-list that has nothing to allow. -/
def warnUnused (i : Inputs) : List Log.Entry :=
  if i.allow.isSome && i.previous.isNone then
    [⟨.warn, "--to-update-csv has no effect without --current-file"⟩]
  else []

/-- The part of an update that reads its inputs, with the station values that a task brings. -/
def gatherFrom (load : Task (StateM World) (List Json.Value)) (s : Settings) (r : UpdateRequest) :
    Task (StateM World) Inputs := do
  let previous ← readPrevious r.currentFile
  let allow ← readAllowList s.sentinel r.allowFile
  (warnUnused ⟨previous, allow, []⟩).forM fun e => say e.level e.message
  let stations ← load
  return ⟨previous, allow, stations⟩

/-- The part of an update that reads its inputs. -/
def gather (web : Web (StateM World)) (s : Settings) (r : UpdateRequest) :
    Task (StateM World) Inputs :=
  gatherFrom (loadStations web s r) s r

/-- The file that the catalog is written to. -/
def UpdateRequest.target (r : UpdateRequest) : Option String := r.updatedFile.or r.currentFile

/-- The layout that is asked for. -/
def UpdateRequest.format (r : UpdateRequest) : Format := if r.plain then .plain else .aligned

/-- The part of an update that writes its results. -/
def publish (r : UpdateRequest) (target : String) (next : Catalog) : Task (StateM World) Unit := do
  saveCatalog target r.format next
  saveCoordinates next r.coordFile
  verifyCatalog target next r.verify
  if r.remind then say .warn reminder

/-- An update reads, saves the snapshot, computes and writes. -/
theorem updateFrom_eq (load : Task (StateM World) (List Json.Value)) (s : Settings)
    (r : UpdateRequest) :
    updateFrom load s r =
      (match r.updatedFile.or r.currentFile with
      | none => throw .noTarget
      | some target => do
        let i ← gatherFrom load s r
        saveStations i.stations r.snapshotFile
        let next ← computeCatalog s i.previous i.allow i.stations
        publish r target next) := by
  cases htarget : r.updatedFile.or r.currentFile with
  | none => simp only [updateFrom, htarget]
  | some target =>
    simp only [updateFrom, htarget, gatherFrom, publish, bind_assoc]
    congr 1
    funext previous
    congr 1
    funext allow
    simp only [warnUnused]
    split
    · simp only [List.forM_eq_forM, List.forM_cons, List.forM_nil, bind_assoc, pure_bind,
        UpdateRequest.format]
    · simp only [List.forM_eq_forM, List.forM_nil, pure_bind, UpdateRequest.format]

theorem update_eq (s : Settings) (r : UpdateRequest) :
    update web s r =
      (match r.updatedFile.or r.currentFile with
      | none => throw .noTarget
      | some target => do
        let i ← gather web s r
        saveStations i.stations r.snapshotFile
        let next ← computeCatalog s i.previous i.allow i.stations
        publish r target next) :=
  updateFrom_eq _ s r

/-! ## 2. Reading the inputs -/

/-- The disk holds these inputs in the files that are named. -/
structure Gathered (s : Settings) (r : UpdateRequest) (d : Disk) (i : Inputs) : Prop where
  previous : PreviousIs d r.currentFile i.previous
  allow : AllowIs s.sentinel d r.allowFile i.allow
  stations : StationsAre d r.inputFile i.stations

/-- What is logged up to the loading of the stations. -/
def readLog (r : UpdateRequest) (i : Inputs) : List Log.Entry :=
  previousLog r.currentFile ++ (allowLog r.allowFile i.allow ++ warnUnused i)

def gatherLog (r : UpdateRequest) (i : Inputs) : List Log.Entry :=
  readLog r i ++ stationsLog r.inputFile

section Gather

variable {load : Task (StateM World) (List Json.Value)} {s : Settings} {r : UpdateRequest}
  {i : Inputs} {w w' : World}

/-- **Reading the inputs** is reading the two files and then loading the stations. -/
theorem runs_gatherFrom : Runs (gatherFrom load s r) w i w' ↔
    PreviousIs w.disk r.currentFile i.previous ∧ AllowIs s.sentinel w.disk r.allowFile i.allow ∧
      Runs load (w.logged (readLog r i)) i.stations w' := by
  unfold gatherFrom readLog
  rw [runs_bind]
  constructor
  · intro h
    obtain ⟨previous, w₁, hread, hrest⟩ := h
    obtain ⟨hprevious, rfl⟩ := runs_readPrevious.1 hread
    obtain ⟨allow, w₂, hread', hrest⟩ := runs_bind.1 hrest
    obtain ⟨hallow, rfl⟩ := runs_readAllowList.1 hread'
    obtain ⟨_, w₃, hwarn, hrest⟩ := runs_bind.1 hrest
    obtain rfl := (runs_forM_say (f := id)).1 hwarn
    obtain ⟨stations, w₄, hload, hpure⟩ := runs_bind.1 hrest
    obtain ⟨rfl, rfl⟩ := runs_pure.1 hpure
    simp only [World.logged_logged, List.map_id, List.append_assoc] at hload
    exact ⟨hprevious, hallow, hload⟩
  · intro h
    obtain ⟨hprevious, hallow, hload⟩ := h
    refine ⟨i.previous, _, runs_readPrevious.2 ⟨hprevious, rfl⟩, runs_bind.2 ⟨i.allow, _,
      runs_readAllowList.2 ⟨hallow, rfl⟩, runs_bind.2 ⟨(), _, (runs_forM_say (f := id)).2 rfl,
        runs_bind.2 ⟨i.stations, w', ?_, runs_pure.2 ⟨rfl, rfl⟩⟩⟩⟩⟩
    simp only [World.logged_logged, List.map_id, List.append_assoc]
    exact hload

/-- If the two files are read and the stations fail to load, reading the inputs fails with that. -/
theorem fails_gatherFrom_of_load {e : Abort}
    (hprevious : PreviousIs w.disk r.currentFile i.previous)
    (hallow : AllowIs s.sentinel w.disk r.allowFile i.allow)
    (hload : Fails load (w.logged (readLog r i)) e w') : Fails (gatherFrom load s r) w e w' := by
  have hwarn : Runs ((warnUnused ⟨i.previous, i.allow, []⟩).forM fun e =>
      say (m := StateM World) e.level e.message)
      ((w.logged (previousLog r.currentFile)).logged (allowLog r.allowFile i.allow)) () _ :=
    (runs_forM_say (f := id)).2 rfl
  simp only [readLog, ← World.logged_logged] at hload
  rw [List.map_id] at hwarn
  unfold gatherFrom
  exact fails_bind.2 (.inr ⟨i.previous, _, runs_readPrevious.2 ⟨hprevious, rfl⟩,
    fails_bind.2 (.inr ⟨i.allow, _, runs_readAllowList.2 ⟨hallow, rfl⟩,
      fails_bind.2 (.inr ⟨(), _, hwarn, fails_bind.2 (.inl hload)⟩)⟩)⟩)

/-- What is read is what the disk holds, and no file is changed. -/
theorem gathered_of_runs (hload : Supplies load r.inputFile) (h : Runs (gatherFrom load s r) w i w') :
    Gathered s r w.disk i ∧ w'.disk = w.disk := by
  obtain ⟨hprevious, hallow, hruns⟩ := runs_gatherFrom.1 h
  obtain ⟨hstations, hdisk⟩ := hload.runs hruns
  exact ⟨⟨hprevious, hallow, hstations⟩, hdisk⟩

/-- With an input file, what the disk holds is read. -/
theorem runs_gather {web : Web (StateM World)} (hinput : r.inputFile.isSome = true) :
    Runs (gather web s r) w i w' ↔ Gathered s r w.disk i ∧ w' = w.logged (gatherLog r i) := by
  unfold gather
  rw [runs_gatherFrom, runs_loadStations_of_file hinput]
  simp only [gatherLog, World.logged_logged]
  constructor
  · intro h
    obtain ⟨hprevious, hallow, hstations, rfl⟩ := h
    exact ⟨⟨hprevious, hallow, hstations⟩, rfl⟩
  · intro h
    obtain ⟨⟨hprevious, hallow, hstations⟩, rfl⟩ := h
    exact ⟨hprevious, hallow, hstations, rfl⟩

end Gather

/-- Why reading the inputs fails. A catalog is to blame only if it is the current one. -/
inductive Unread (r : UpdateRequest) (d : Disk) : Abort → Prop where
  | file (path cause : String) : Unread r d (.update (.read path cause))
  | catalog {path text : String} {e : CatalogError} (current : r.currentFile = some path)
      (read : d.read path = .ok (.text text)) (parse : Catalog.parse text = .error e) :
      Unread r d (.update (.catalog e))
  | stations {e : Abort} (unsupplied : Unsupplied r.inputFile e) : Unread r d e

theorem fails_gatherFrom {load : Task (StateM World) (List Json.Value)} {s : Settings}
    {r : UpdateRequest} (hload : Supplies load r.inputFile) {e : Abort} {w w' : World}
    (h : Fails (gatherFrom load s r) w e w') : w'.disk = w.disk ∧ Unread r w.disk e := by
  unfold gatherFrom at h
  rcases fails_bind.1 h with hprevious | ⟨previous, w₁, hprevious, hrest⟩
  · obtain ⟨hdisk, path, hcurrent, he⟩ := fails_readPrevious hprevious
    rcases he with ⟨cause, rfl⟩ | ⟨text, ce, htext, hparse, rfl⟩
    · exact ⟨hdisk, .file path cause⟩
    · exact ⟨hdisk, .catalog hcurrent htext hparse⟩
  obtain ⟨_, rfl⟩ := runs_readPrevious.1 hprevious
  rcases fails_bind.1 hrest with hallow | ⟨allow, w₂, hallow, hrest⟩
  · obtain ⟨hdisk, path, cause, rfl⟩ := fails_readAllowList hallow
    exact ⟨hdisk, .file path cause⟩
  obtain ⟨_, rfl⟩ := runs_readAllowList.1 hallow
  rcases fails_bind.1 hrest with hwarn | ⟨_, w₃, hwarn, hrest⟩
  · exact absurd hwarn (not_fails_forM_say (f := id))
  obtain rfl := (runs_forM_say (f := id)).1 hwarn
  rcases fails_bind.1 hrest with hstations | ⟨_, _, _, hpure⟩
  · obtain ⟨hdisk, hunsupplied⟩ := hload.fails hstations
    exact ⟨hdisk, .stations hunsupplied⟩
  · exact absurd hpure not_fails_pure

/-! ## 3. Successful updates -/

/-- What a successful update goes through: its inputs, the canonical stations, the two texts that it
    writes, and the disks after each of its writes. -/
structure Course where
  target : String
  inputs : Inputs
  canonical : Canonical
  text : String
  listing : String
  saved : Disk
  written : Disk
  final : Disk

/-- What the stations are reconciled to. -/
def Course.reconciled (c : Course) (s : Settings) : Reconciled :=
  reconcile s.types c.canonical.stations c.inputs.previous c.inputs.allow

/-- The catalog that the update writes. -/
def Course.next (c : Course) (s : Settings) : Catalog := (c.reconciled s).catalog

/-- The course up to the next catalog. -/
structure Course.Prepared (c : Course) (s : Settings) (r : UpdateRequest) (d : Disk) : Prop where
  target : r.updatedFile.or r.currentFile = some c.target
  inputs : Gathered s r d c.inputs
  saved : Saves d r.snapshotFile (snapshotText c.inputs.stations) c.saved
  canonical : canonicalOf s.policy c.inputs.stations = .ok c.canonical

/-- The course up to the written catalog. -/
structure Course.Wrote (c : Course) (s : Settings) (r : UpdateRequest) (d : Disk) : Prop
    extends c.Prepared s r d where
  rendered : (c.next s).render r.format = .ok c.text
  written : c.saved.Replaces c.target c.text c.written

/-- The course up to the coordinate listing. -/
structure Course.Listed (c : Course) (s : Settings) (r : UpdateRequest) (d : Disk) : Prop
    extends c.Wrote s r d where
  listed : r.coordFile.isSome = true → (c.next s).coordinates = .ok c.listing
  final : Saves c.written r.coordFile c.listing c.final

/-- The whole course of an update on a disk. -/
structure Course.Of (c : Course) (s : Settings) (r : UpdateRequest) (d : Disk) : Prop
    extends c.Listed s r d where
  verified : r.verify = true →
    ∃ text, c.final.read c.target = .ok (.text text) ∧ Catalog.verify text (c.next s) = .ok ()

def publishLog (r : UpdateRequest) (target : String) : List Log.Entry :=
  savingLog "Saving updated sites to '" (some target) ++
    (savingLog "Saving coordinates to '" r.coordFile ++
      (verifyLog target r.verify ++ if r.remind then [⟨.warn, reminder⟩] else []))

/-- What a successful update adds to the log once it has read its inputs. -/
def Course.resultLog (c : Course) (s : Settings) (r : UpdateRequest) : List Log.Entry :=
  savingLog "Saving HOMR stations to '" r.snapshotFile ++
    (computeLog c.inputs.stations c.canonical (c.reconciled s) ++ publishLog r c.target)

/-- What a successful update with an input file adds to the log. -/
def Course.log (c : Course) (s : Settings) (r : UpdateRequest) : List Log.Entry :=
  gatherLog r c.inputs ++ c.resultLog s r

theorem runs_publish {r : UpdateRequest} {target : String} {next : Catalog} {u : Unit}
    {w w' : World} : Runs (publish r target next) w u w' ↔ ∃ text listing d₁ d₂,
      next.render r.format = .ok text ∧ w.disk.Replaces target text d₁ ∧
        (r.coordFile.isSome = true → next.coordinates = .ok listing) ∧
        Saves d₁ r.coordFile listing d₂ ∧
        (r.verify = true →
          ∃ t, d₂.read target = .ok (.text t) ∧ Catalog.verify t next = .ok ()) ∧
        w' = (w.logged (publishLog r target)).on d₂ := by
  have hremind : ∀ {w₀ : World} {u : Unit},
      Runs (if r.remind then say (m := StateM World) .warn reminder else pure ()) w₀ u w' ↔
        w' = w₀.logged (if r.remind then [⟨.warn, reminder⟩] else []) := by
    intro w₀ u
    cases r.remind with
    | false =>
      simp only [Bool.false_eq_true, if_false, World.logged_nil]
      exact runs_pure.trans ⟨fun h => h.2, fun h => ⟨rfl, h⟩⟩
    | true => exact runs_say
  unfold publish
  rw [runs_bind]
  constructor
  · intro h
    obtain ⟨_, w₁, hcatalog, hrest⟩ := h
    obtain ⟨text, d₁, hrender, hd₁, rfl⟩ := runs_saveCatalog.1 hcatalog
    obtain ⟨_, w₂, hcoordinates, hrest⟩ := runs_bind.1 hrest
    obtain ⟨listing, d₂, hlisting, hd₂, rfl⟩ := runs_saveCoordinates.1 hcoordinates
    obtain ⟨_, w₃, hcheck, hrest⟩ := runs_bind.1 hrest
    obtain ⟨hverify, rfl⟩ := runs_verifyCatalog.1 hcheck
    refine ⟨text, listing, d₁, d₂, hrender, hd₁, hlisting, hd₂, hverify, ?_⟩
    rw [hremind.1 hrest]
    simp only [publishLog, World.on_logged, World.logged_logged, World.on_on, List.append_assoc]
  · intro h
    obtain ⟨text, listing, d₁, d₂, hrender, hd₁, hlisting, hd₂, hverify, rfl⟩ := h
    refine ⟨(), _, runs_saveCatalog.2 ⟨text, d₁, hrender, hd₁, rfl⟩, runs_bind.2 ⟨(), _,
      runs_saveCoordinates.2 ⟨listing, d₂, hlisting, hd₂, rfl⟩, runs_bind.2 ⟨(), _,
        runs_verifyCatalog.2 ⟨hverify, rfl⟩, hremind.2 ?_⟩⟩⟩
    simp only [publishLog, World.on_logged, World.logged_logged, World.on_on, List.append_assoc]

section Update

variable {load : Task (StateM World) (List Json.Value)} {s : Settings} {r : UpdateRequest}
  {w w' : World}

/-- **An update succeeds along a course** on what it has read, and leaves the disk and the log of
    it. -/
theorem runs_updateFrom {u : Unit} : Runs (updateFrom load s r) w u w' ↔
    ∃ (c : Course) (w₁ : World), Runs (gatherFrom load s r) w c.inputs w₁ ∧
      r.updatedFile.or r.currentFile = some c.target ∧
      Saves w₁.disk r.snapshotFile (snapshotText c.inputs.stations) c.saved ∧
      canonicalOf s.policy c.inputs.stations = .ok c.canonical ∧
      (c.next s).render r.format = .ok c.text ∧ c.saved.Replaces c.target c.text c.written ∧
      (r.coordFile.isSome = true → (c.next s).coordinates = .ok c.listing) ∧
      Saves c.written r.coordFile c.listing c.final ∧
      (r.verify = true → ∃ text,
        c.final.read c.target = .ok (.text text) ∧ Catalog.verify text (c.next s) = .ok ()) ∧
      w' = (w₁.logged (c.resultLog s r)).on c.final := by
  rw [updateFrom_eq]
  cases htarget : r.updatedFile.or r.currentFile with
  | none =>
    constructor
    · intro h
      exact absurd h not_runs_throw
    · intro h
      obtain ⟨c, _, _, htarget', _⟩ := h
      cases htarget'
  | some target =>
    constructor
    · intro h
      obtain ⟨i, w₁, hgather, hrest⟩ := runs_bind.1 h
      obtain ⟨_, w₂, hsave, hrest⟩ := runs_bind.1 hrest
      obtain ⟨d₁, hd₁, rfl⟩ := runs_saveStations.1 hsave
      obtain ⟨next, w₃, hcompute, hpublish⟩ := runs_bind.1 hrest
      obtain ⟨canonical, hcanonical, rfl, rfl⟩ := runs_computeCatalog.1 hcompute
      obtain ⟨text, listing, d₂, d₃, hrender, hd₂, hlisting, hd₃, hverify, rfl⟩ :=
        runs_publish.1 hpublish
      refine ⟨⟨target, i, canonical, text, listing, d₁, d₂, d₃⟩, w₁, hgather, rfl, hd₁, hcanonical,
        hrender, hd₂, hlisting, hd₃, hverify, ?_⟩
      simp only [Course.resultLog, Course.reconciled, World.on_logged, World.logged_logged,
        World.on_on, List.append_assoc]
    · intro h
      obtain ⟨c, w₁, hgather, htarget', hsaved, hcanonical, hrender, hwritten, hlisting, hfinal,
        hverify, rfl⟩ := h
      cases htarget'
      refine runs_bind.2 ⟨c.inputs, w₁, hgather, runs_bind.2 ⟨(), _,
        runs_saveStations.2 ⟨c.saved, hsaved, rfl⟩, runs_bind.2 ⟨c.next s, _,
          runs_computeCatalog.2 ⟨c.canonical, hcanonical, rfl, rfl⟩,
          runs_publish.2 ⟨c.text, c.listing, c.written, c.final, hrender, hwritten, hlisting,
            hfinal, hverify, ?_⟩⟩⟩⟩
      simp only [Course.resultLog, Course.reconciled, World.on_logged, World.logged_logged,
        World.on_on, List.append_assoc]

/-- The course that a successful update goes. -/
theorem course_of_runs (hload : Supplies load r.inputFile) {u : Unit}
    (h : Runs (updateFrom load s r) w u w') : ∃ (c : Course) (w₁ : World),
      Runs (gatherFrom load s r) w c.inputs w₁ ∧ c.Of s r w.disk ∧ w'.disk = c.final := by
  obtain ⟨c, w₁, hgather, htarget, hsaved, hcanonical, hrender, hwritten, hlisting, hfinal, hverify,
    rfl⟩ := runs_updateFrom.1 h
  obtain ⟨hinputs, hdisk⟩ := gathered_of_runs hload hgather
  rw [hdisk] at hsaved
  exact ⟨c, w₁, hgather, ⟨⟨⟨⟨htarget, hinputs, hsaved, hcanonical⟩, hrender, hwritten⟩, hlisting,
    hfinal⟩, hverify⟩, rfl⟩

/-- A course on inputs that are read is gone. -/
theorem Course.Of.runs {c : Course} (hc : c.Of s r w.disk) {w₁ : World}
    (hgather : Runs (gatherFrom load s r) w c.inputs w₁) (hdisk : w₁.disk = w.disk) :
    Runs (updateFrom load s r) w () ((w₁.logged (c.resultLog s r)).on c.final) := by
  have hsaved := hc.saved
  rw [← hdisk] at hsaved
  exact runs_updateFrom.2 ⟨c, w₁, hgather, hc.target, hsaved, hc.canonical, hc.rendered, hc.written,
    hc.listed, hc.final, hc.verified, rfl⟩

/-- **An update with an input file succeeds exactly along a course**, and leaves the disk and the
    log of it. -/
theorem runs_update {web : Web (StateM World)} (hinput : r.inputFile.isSome = true) {u : Unit} :
    Runs (update web s r) w u w' ↔
      ∃ c : Course, c.Of s r w.disk ∧ w' = (w.logged (c.log s r)).on c.final := by
  constructor
  · intro h
    obtain ⟨c, w₁, hgather, htarget, hsaved, hcanonical, hrender, hwritten, hlisting, hfinal,
      hverify, rfl⟩ := runs_updateFrom.1 h
    obtain ⟨hinputs, rfl⟩ := (runs_gather hinput).1 hgather
    refine ⟨c, ⟨⟨⟨⟨htarget, hinputs, hsaved, hcanonical⟩, hrender, hwritten⟩, hlisting, hfinal⟩,
      hverify⟩, ?_⟩
    rw [World.logged_logged]
    rfl
  · intro h
    obtain ⟨c, hc, rfl⟩ := h
    have hgather : Runs (gather web s r) w c.inputs _ := (runs_gather hinput).2 ⟨hc.inputs, rfl⟩
    have hruns := hc.runs hgather rfl
    rw [World.logged_logged] at hruns
    exact hruns

end Update

/-! ## 4. Failed updates -/

/-- An update with a file to write to fails as the reading of its inputs does. -/
theorem fails_updateFrom_of_gather {load : Task (StateM World) (List Json.Value)} {s : Settings}
    {r : UpdateRequest} {w w' : World} {e : Abort} (htarget : r.target.isSome = true)
    (h : Fails (gatherFrom load s r) w e w') : Fails (updateFrom load s r) w e w' := by
  obtain ⟨target, htarget⟩ := Option.isSome_iff_exists.1 htarget
  have htarget : r.updatedFile.or r.currentFile = some target := htarget
  rw [updateFrom_eq, htarget]
  exact fails_bind.2 (.inl h)

section Fails

variable {web : Web (StateM World)} {s : Settings} {r : UpdateRequest} {w w₁ : World}

/-- An update fails as the work on its stations does, after the snapshot is saved. -/
theorem fails_update_of_canonicalOf {target : String} {i : Inputs} {d : Disk} {f : Failure}
    (htarget : r.updatedFile.or r.currentFile = some target) (hgather : Runs (gather web s r) w i w₁)
    (hsaved : Saves w₁.disk r.snapshotFile (snapshotText i.stations) d)
    (hcanonical : canonicalOf s.policy i.stations = .error f) :
    ∃ w', Fails (update web s r) w (.update f) w' ∧ w'.disk = d := by
  let w₂ : World := (w₁.logged (savingLog "Saving HOMR stations to '" r.snapshotFile)).on d
  have hsave : Runs (saveStations i.stations r.snapshotFile) w₁ () w₂ :=
    runs_saveStations.2 ⟨d, hsaved, rfl⟩
  let w₃ : World :=
    w₂.logged [⟨.info, "Processing " ++ toString i.stations.length ++ " HOMR stations"⟩]
  have hcompute : Fails (computeCatalog s i.previous i.allow i.stations) w₂ (.update f) w₃ :=
    fails_say_bind.2 (fails_bind.2 (.inl (fails_check.2 ⟨f, hcanonical, rfl, rfl⟩)))
  refine ⟨w₃, ?_, rfl⟩
  rw [update_eq, htarget]
  exact fails_bind.2 (.inr ⟨i, w₁, hgather, fails_bind.2 (.inr ⟨(), w₂, hsave,
    fails_bind.2 (.inl hcompute)⟩)⟩)

/-- An update fails at a listing that is wanted and that there is not, after the catalog is
    written. -/
theorem fails_update_of_coordinates {c : Course} (hc : c.Wrote s r w.disk)
    (hgather : Runs (gather web s r) w c.inputs w₁) (hdisk : w₁.disk = w.disk) {path : String}
    (hfile : r.coordFile = some path) {e : CoordinateError}
    (hlisting : (c.next s).coordinates = .error e) :
    ∃ w', Fails (update web s r) w (.update (.coordinate e)) w' ∧ w'.disk = c.written := by
  have hsaved := hc.saved
  rw [← hdisk] at hsaved
  let w₂ : World := (w₁.logged (savingLog "Saving HOMR stations to '" r.snapshotFile)).on c.saved
  let w₃ : World := w₂.logged (computeLog c.inputs.stations c.canonical (c.reconciled s))
  let w₄ : World :=
    (w₃.logged (savingLog "Saving updated sites to '" (some c.target))).on c.written
  have hsave : Runs (saveStations c.inputs.stations r.snapshotFile) w₁ () w₂ :=
    runs_saveStations.2 ⟨c.saved, hsaved, rfl⟩
  have hcompute : Runs (computeCatalog s c.inputs.previous c.inputs.allow c.inputs.stations) w₂
      (c.next s) w₃ := runs_computeCatalog.2 ⟨c.canonical, hc.canonical, rfl, rfl⟩
  have hcatalog : Runs (saveCatalog c.target r.format (c.next s)) w₃ () w₄ :=
    runs_saveCatalog.2 ⟨c.text, c.written, hc.rendered, hc.written, rfl⟩
  let w₅ : World := w₄.logged [⟨.info, "Saving coordinates to '" ++ path ++ "'"⟩]
  have hcoordinates :
      Fails (saveCoordinates (c.next s) r.coordFile) w₄ (.update (.coordinate e)) w₅ := by
    rw [hfile, saveCoordinates]
    exact fails_say_bind.2 (fails_bind.2 (.inl (fails_check.2 ⟨e, hlisting, rfl, rfl⟩)))
  refine ⟨w₅, ?_, rfl⟩
  rw [update_eq, hc.target]
  exact fails_bind.2 (.inr ⟨c.inputs, w₁, hgather, fails_bind.2 (.inr ⟨(), w₂, hsave,
    fails_bind.2 (.inr ⟨c.next s, w₃, hcompute, fails_bind.2 (.inr ⟨(), w₄, hcatalog,
      fails_bind.2 (.inl hcoordinates)⟩)⟩)⟩)⟩)

end Fails

/-- Where an update stops, and the disk that it leaves there. Of a course only the part up to that
    place matters. -/
inductive Stops (s : Settings) (r : UpdateRequest) (d : Disk) : Abort → Disk → Prop where
  | target (absent : r.updatedFile.or r.currentFile = none) : Stops s r d .noTarget d
  | inputs {e : Abort} (unread : Unread r d e) : Stops s r d e d
  | snapshot {path : String} {e : Abort} {d' : Disk} (file : r.snapshotFile = some path)
      (unwritten : Unwritten path e) (spared : Spared d path d') : Stops s r d e d'
  | stations {i : Inputs} {f : Failure} {d' : Disk} (inputs : Gathered s r d i)
      (saved : Saves d r.snapshotFile (snapshotText i.stations) d')
      (failure : (∃ se, f = .station se) ∨ ∃ ne, f = .number ne) : Stops s r d (.update f) d'
  | render {c : Course} {e : CatalogError} (prepared : c.Prepared s r d)
      (render : (c.next s).render r.format = .error e) :
      Stops s r d (.update (.catalog e)) c.saved
  | catalog {c : Course} {e : Abort} {d' : Disk} (prepared : c.Prepared s r d)
      (unwritten : Unwritten c.target e) (spared : Spared c.saved c.target d') : Stops s r d e d'
  | coordinates {c : Course} {path : String} {e : CoordinateError} (wrote : c.Wrote s r d)
      (file : r.coordFile = some path) (coordinates : (c.next s).coordinates = .error e) :
      Stops s r d (.update (.coordinate e)) c.written
  | listing {c : Course} {path : String} {e : Abort} {d' : Disk} (wrote : c.Wrote s r d)
      (file : r.coordFile = some path) (unwritten : Unwritten path e)
      (spared : Spared c.written path d') : Stops s r d e d'
  | reread {c : Course} {cause : String} (listed : c.Listed s r d)
      (unread : ∀ text, c.final.read c.target ≠ .ok (.text text)) :
      Stops s r d (.update (.read c.target cause)) c.final
  | verification {c : Course} {text : String} {e : VerifyError} (listed : c.Listed s r d)
      (read : c.final.read c.target = .ok (.text text))
      (verify : Catalog.verify text (c.next s) = .error e) :
      Stops s r d (.update (.verification e)) c.final

/-- Where an update stops that has the next catalog. -/
inductive Unpublished (s : Settings) (r : UpdateRequest) (d : Disk) : Abort → Disk → Prop where
  | render {c : Course} {e : CatalogError} (prepared : c.Prepared s r d)
      (render : (c.next s).render r.format = .error e) :
      Unpublished s r d (.update (.catalog e)) c.saved
  | catalog {c : Course} {e : Abort} {d' : Disk} (prepared : c.Prepared s r d)
      (unwritten : Unwritten c.target e) (spared : Spared c.saved c.target d') :
      Unpublished s r d e d'
  | coordinates {c : Course} {path : String} {e : CoordinateError} (wrote : c.Wrote s r d)
      (file : r.coordFile = some path) (coordinates : (c.next s).coordinates = .error e) :
      Unpublished s r d (.update (.coordinate e)) c.written
  | listing {c : Course} {path : String} {e : Abort} {d' : Disk} (wrote : c.Wrote s r d)
      (file : r.coordFile = some path) (unwritten : Unwritten path e)
      (spared : Spared c.written path d') : Unpublished s r d e d'
  | reread {c : Course} {cause : String} (listed : c.Listed s r d) (wanted : r.verify = true)
      (unread : ∀ text, c.final.read c.target ≠ .ok (.text text)) :
      Unpublished s r d (.update (.read c.target cause)) c.final
  | verification {c : Course} {text : String} {e : VerifyError} (listed : c.Listed s r d)
      (read : c.final.read c.target = .ok (.text text))
      (verify : Catalog.verify text (c.next s) = .error e) :
      Unpublished s r d (.update (.verification e)) c.final

theorem unpublished_of_fails {s : Settings} {r : UpdateRequest} {d : Disk} {c : Course}
    (hc : c.Prepared s r d) {e : Abort} {w w' : World} (hw : w.disk = c.saved)
    (h : Fails (publish r c.target (c.next s)) w e w') : Unpublished s r d e w'.disk := by
  unfold publish at h
  rcases fails_bind.1 h with hcatalog | ⟨_, w₁, hcatalog, hrest⟩
  · rcases fails_saveCatalog hcatalog with ⟨ce, hrender, rfl, hdisk⟩ | ⟨hunwritten, hspared⟩
    · rw [hdisk, hw]
      exact .render hc hrender
    · rw [hw] at hspared
      exact .catalog hc hunwritten hspared
  obtain ⟨text, d₂, hrender, hd₂, rfl⟩ := runs_saveCatalog.1 hcatalog
  rw [hw] at hd₂
  have hwrote : Course.Wrote { c with text := text, written := d₂ } s r d :=
    ⟨⟨hc.target, hc.inputs, hc.saved, hc.canonical⟩, hrender, hd₂⟩
  rcases fails_bind.1 hrest with hcoordinates | ⟨_, w₂, hcoordinates, hrest⟩
  · obtain ⟨path, hfile, hcases⟩ := fails_saveCoordinates hcoordinates
    rcases hcases with ⟨ce, hlisting, rfl, hdisk⟩ | ⟨hunwritten, hspared⟩
    · rw [hdisk]
      exact .coordinates hwrote hfile hlisting
    · exact .listing hwrote hfile hunwritten hspared
  obtain ⟨listing, d₃, hlisting, hd₃, rfl⟩ := runs_saveCoordinates.1 hcoordinates
  have hlisted : Course.Listed
      { c with text := text, written := d₂, listing := listing, final := d₃ } s r d :=
    ⟨⟨⟨hc.target, hc.inputs, hc.saved, hc.canonical⟩, hrender, hd₂⟩, hlisting, hd₃⟩
  rcases fails_bind.1 hrest with hcheck | ⟨_, w₃, _, hremind⟩
  · obtain ⟨hwanted, hdisk, hcases⟩ := fails_verifyCatalog hcheck
    rw [hdisk]
    rcases hcases with ⟨⟨cause, rfl⟩, hunread⟩ | ⟨t, ve, hread, hverify, rfl⟩
    · exact .reread hlisted hwanted hunread
    · exact .verification hlisted hread hverify
  · cases hr : r.remind with
    | true =>
      rw [hr] at hremind
      exact absurd hremind not_fails_say
    | false =>
      rw [hr] at hremind
      exact absurd hremind not_fails_pure

theorem Unpublished.stops {s : Settings} {r : UpdateRequest} {d d' : Disk} {e : Abort}
    (h : Unpublished s r d e d') : Stops s r d e d' := by
  cases h with
  | render prepared render => exact .render prepared render
  | catalog prepared unwritten spared => exact .catalog prepared unwritten spared
  | coordinates wrote file coordinates => exact .coordinates wrote file coordinates
  | listing wrote file unwritten spared => exact .listing wrote file unwritten spared
  | reread listed wanted unread => exact .reread listed unread
  | verification listed read verify => exact .verification listed read verify

/-- **An update that fails stops at one of these places.** -/
theorem stops_of_fails {load : Task (StateM World) (List Json.Value)} {s : Settings}
    {r : UpdateRequest} (hload : Supplies load r.inputFile) {e : Abort} {w w' : World}
    (h : Fails (updateFrom load s r) w e w') : Stops s r w.disk e w'.disk := by
  rw [updateFrom_eq] at h
  cases htarget : r.updatedFile.or r.currentFile with
  | none =>
    rw [htarget] at h
    obtain ⟨rfl, rfl⟩ := fails_throw.1 h
    exact .target htarget
  | some target =>
    rw [htarget] at h
    rcases fails_bind.1 h with hgather | ⟨i, w₁, hgather, hrest⟩
    · obtain ⟨hdisk, hunread⟩ := fails_gatherFrom hload hgather
      rw [hdisk]
      exact .inputs hunread
    obtain ⟨hi, hdisk₁⟩ := gathered_of_runs hload hgather
    rcases fails_bind.1 hrest with hsave | ⟨_, w₂, hsave, hrest⟩
    · obtain ⟨path, hfile, hunwritten, hspared⟩ := fails_saveStations hsave
      rw [hdisk₁] at hspared
      exact .snapshot hfile hunwritten hspared
    obtain ⟨d₁, hd₁, rfl⟩ := runs_saveStations.1 hsave
    rw [hdisk₁] at hd₁
    rcases fails_bind.1 hrest with hcompute | ⟨next, w₃, hcompute, hpublish⟩
    · obtain ⟨hdisk, hcases⟩ := fails_computeCatalog hcompute
      rw [hdisk]
      rcases hcases with ⟨se, rfl⟩ | ⟨ne, rfl⟩
      · exact .stations hi hd₁ (.inl ⟨se, rfl⟩)
      · exact .stations hi hd₁ (.inr ⟨ne, rfl⟩)
    · obtain ⟨canonical, hcanonical, rfl, rfl⟩ := runs_computeCatalog.1 hcompute
      have hc : Course.Prepared ⟨target, i, canonical, "", "", d₁, d₁, d₁⟩ s r w.disk :=
        ⟨htarget, hi, hd₁, hcanonical⟩
      exact (unpublished_of_fails hc rfl hpublish).stops

end RadarCatalog.Command
