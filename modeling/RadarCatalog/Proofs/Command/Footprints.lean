import RadarCatalog.Proofs.Command.Failures

/-!
# What a run of the program touches

The footprint of a run is the files that it is asked to write, whatever its other files are and
however it ends. The temporary names of these files belong to it as well: a file that stands at one
of them is overwritten, and gone at the end.

* `Disk.Touches` is the footprint of a change: all but the named files stays, or stood at the
  temporary name of one of them and is gone. Changes one after the other have one footprint.
* `Within` says that a task keeps to a footprint. It goes along the binds of the task, so each part
  of the program has one lemma, down to `writeText`, the only one that changes anything.
* `run_touches` is the result for both commands; `temporary_file_lost` is a run that takes its own
  current file away.

All of this is about disks as they are modelled: without links, with writes that take place as a
whole or not at all, and with removals that succeed. A write that stops in the middle would leave a
part of a text at a temporary name.
-/

namespace RadarCatalog.Files.Disk

/-! ## 1. Footprints -/

/-- From the first disk to the second the directories stay, and everything else but the files of the
    path names, save that their temporary names may be free now. -/
structure Touches (paths : List String) (d d' : Disk) : Prop where
  start : d'.start = d.start
  directory : ∀ l, d'.lookup? l = some .directory ↔ d.lookup? l = some .directory
  kept : ∀ l, (∀ p ∈ paths, d.locate p ≠ .ok l) →
    d'.lookup? l = d.lookup? l ∨
      d'.lookup? l = none ∧ ∃ p ∈ paths, d.locate (temporary p) = .ok l

theorem Touches.refl (paths : List String) (d : Disk) : Touches paths d d :=
  ⟨rfl, fun _ => Iff.rfl, fun _ _ => .inl rfl⟩

theorem Touches.locate {paths : List String} {d d' : Disk} (h : Touches paths d d')
    {path : String} {l : Location} : d'.locate path = .ok l ↔ d.locate path = .ok l :=
  ⟨locate_of_directory h.start.symm fun l => (h.directory l).1,
    locate_of_directory h.start fun l => (h.directory l).2⟩

/-- **Changes one after the other** have the footprint of each. -/
theorem Touches.trans {paths : List String} {d d' d'' : Disk} (h : Touches paths d d')
    (h' : Touches paths d' d'') : Touches paths d d'' where
  start := h'.start.trans h.start
  directory l := (h'.directory l).trans (h.directory l)
  kept := by
    intro l hl
    have hl' : ∀ p ∈ paths, d'.locate p ≠ .ok l := fun p hp e => hl p hp (h.locate.1 e)
    rcases h'.kept l hl' with hsame' | ⟨hnone, p, hp, htmp⟩
    · rcases h.kept l hl with hsame | ⟨hnone, htmp⟩
      · exact .inl (hsame'.trans hsame)
      · exact .inr ⟨hsame'.trans hnone, htmp⟩
    · exact .inr ⟨hnone, p, hp, h.locate.1 htmp⟩

theorem Touches.mono {paths paths' : List String} {d d' : Disk} (h : Touches paths d d')
    (hsub : ∀ p ∈ paths, p ∈ paths') : Touches paths' d d' where
  start := h.start
  directory := h.directory
  kept := by
    intro l hl
    rcases h.kept l fun p hp => hl p (hsub p hp) with hsame | ⟨hnone, p, hp, htmp⟩
    · exact .inl hsame
    · exact .inr ⟨hnone, p, hsub p hp, htmp⟩

/-- An atomic write touches its file. -/
theorem Replaces.touches {d d' : Disk} {path text : String} (h : d.Replaces path text d') :
    Touches [path] d d' := by
  obtain ⟨l, lt, hw, hchanges, hlookup⟩ := h.lookup?_eq
  refine ⟨hchanges.start, hchanges.directory, ?_⟩
  intro l' hl'
  have hne : ¬ l = l' := fun e => hl' path List.mem_cons_self (e ▸ hw.locate)
  rw [hlookup, if_neg hne]
  split
  · rename_i e
    subst e
    exact .inr ⟨rfl, path, List.mem_cons_self, hw.locate_temporary⟩
  · exact .inl rfl

/-- A withdrawn write touches its file, or rather the temporary name of it. -/
theorem Withdraws.touches {d d' : Disk} {path text : String} (h : d.Withdraws path text d') :
    Touches [path] d d' := by
  obtain ⟨lt, hlt, hchanges, hlookup⟩ := h.lookup?_eq
  refine ⟨hchanges.start, hchanges.directory, ?_⟩
  intro l' _
  rw [hlookup]
  split
  · rename_i e
    subst e
    exact .inr ⟨rfl, path, List.mem_cons_self, hlt⟩
  · exact .inl rfl

/-- **What is apart from the footprint** is untouched: the same stands at the path name, or nothing
    does as before. -/
theorem Touches.entryAt_eq {paths : List String} {d d' : Disk} (h : Touches paths d d')
    {path : String} (hpath : ∀ p ∈ paths, d.Apart path p ∧ d.Apart path (temporary p)) :
    d'.entryAt path = d.entryAt path := by
  cases hl : d.locate path with
  | ok l =>
    rw [entryAt_of_locate hl, entryAt_of_locate (h.locate.2 hl)]
    rcases h.kept l fun p hp => (hpath p hp).1 l hl with hsame | ⟨_, p, hp, htmp⟩
    · exact hsame
    · exact absurd htmp ((hpath p hp).2 l hl)
  | error e =>
    cases hl' : d'.locate path with
    | ok l =>
      have hback := h.locate.1 hl'
      rw [hl] at hback
      cases hback
    | error e' => simp only [entryAt, hl, hl']

end RadarCatalog.Files.Disk

namespace RadarCatalog.Command

open RadarCatalog.Catalog RadarCatalog.Files RadarCatalog.Registry RadarCatalog.Update

/-! ## 2. Tasks within a footprint -/

/-- However the task ends, it touches no other files than these. -/
structure Within {α : Type} (paths : List String) (t : Task (StateM World) α) : Prop where
  runs : ∀ w a w', Runs t w a w' → Disk.Touches paths w.disk w'.disk
  fails : ∀ w e w', Fails t w e w' → Disk.Touches paths w.disk w'.disk

section Tasks

variable {α β ε : Type} {paths : List String}

/-- **A chain keeps to the footprint** when both its parts do. -/
theorem within_bind {t : Task (StateM World) α} {f : α → Task (StateM World) β}
    (ht : Within paths t) (hf : ∀ a, Within paths (f a)) : Within paths (t >>= f) where
  runs := by
    intro w b w' h
    obtain ⟨a, w₁, hfirst, hrest⟩ := runs_bind.1 h
    exact (ht.runs w a w₁ hfirst).trans ((hf a).runs w₁ b w' hrest)
  fails := by
    intro w e w' h
    rcases fails_bind.1 h with hfirst | ⟨a, w₁, hfirst, hrest⟩
    · exact ht.fails w e w' hfirst
    · exact (ht.runs w a w₁ hfirst).trans ((hf a).fails w₁ e w' hrest)

/-- A task that leaves the disk as it is. -/
theorem within_of_still {t : Task (StateM World) α}
    (hruns : ∀ w a w', Runs t w a w' → w'.disk = w.disk)
    (hfails : ∀ w e w', Fails t w e w' → w'.disk = w.disk) : Within paths t where
  runs := by
    intro w a w' h
    rw [hruns w a w' h]
    exact .refl paths w.disk
  fails := by
    intro w e w' h
    rw [hfails w e w' h]
    exact .refl paths w.disk

theorem within_pure (a : α) : Within paths (pure a : Task (StateM World) α) := by
  refine within_of_still ?_ fun _ _ _ h => absurd h not_fails_pure
  intro w b w' h
  rw [(runs_pure.1 h).2]

theorem within_throw (e : Abort) : Within paths (throw e : Task (StateM World) α) := by
  refine within_of_still (fun _ _ _ h => absurd h not_runs_throw) ?_
  intro w e' w' h
  rw [(fails_throw.1 h).2]

theorem within_say (level : Log.Level) (message : String) :
    Within paths (say (m := StateM World) level message) := by
  refine within_of_still ?_ fun _ _ _ h => absurd h not_fails_say
  intro w u w' h
  rw [runs_say.1 h]
  rfl

theorem within_check (abort : ε → Abort) (x : Except ε α) :
    Within paths (check (m := StateM World) abort x) := by
  cases x with
  | ok a => exact within_pure a
  | error e => exact within_throw (abort e)

theorem within_readText (path : String) : Within paths (readText (m := StateM World) path) := by
  refine within_of_still ?_ ?_
  · intro w text w' h
    rw [(runs_readText.1 h).2]
  · intro w e w' h
    rw [(fails_readText h).2.1]

/-- **An atomic write**, done or withdrawn. -/
theorem within_writeText {path : String} (hpath : path ∈ paths) (text : String) :
    Within paths (writeText (m := StateM World) path text) := by
  have hsub : ∀ p ∈ [path], p ∈ paths := by
    intro p hp
    rw [List.mem_singleton.1 hp]
    exact hpath
  refine ⟨?_, ?_⟩
  · intro w u w' h
    obtain ⟨d', hd', rfl⟩ := runs_writeText.1 h
    exact hd'.touches.mono hsub
  · intro w e w' h
    obtain ⟨_, rfl | ⟨d', hd', rfl⟩⟩ := fails_writeText h
    · exact .refl paths w'.disk
    · exact hd'.touches.mono hsub

end Tasks

/-! ## 3. The parts of the program -/

section Parts

variable {paths : List String}

theorem within_readCatalog (path : String) :
    Within paths (readCatalog (m := StateM World) path) :=
  within_bind (within_readText path) fun _ => within_check _ _

/-- The inputs are read, and the registry is searched. -/
theorem within_gather {web : Web (StateM World)} (s : Settings) {r : UpdateRequest}
    (hweb : r.inputFile = none → web.Still) : Within paths (gather web s r) := by
  refine within_of_still ?_ ?_
  · intro w i w' h
    exact (gathered_of_runs (supplies_loadStations hweb) h).2
  · intro w e w' h
    exact (fails_gatherFrom (supplies_loadStations hweb) h).1

theorem within_saveStations (stations : List Json.Value) {file : Option String}
    (hfile : ∀ p ∈ file.toList, p ∈ paths) :
    Within paths (saveStations (m := StateM World) stations file) := by
  cases file with
  | none => exact within_pure ()
  | some path =>
    exact within_bind (within_say _ _) fun _ => within_writeText (hfile path List.mem_cons_self) _

theorem within_computeCatalog (s : Settings) (i : Inputs) :
    Within paths (computeCatalog (m := StateM World) s i.previous i.allow i.stations) := by
  refine within_of_still ?_ fun _ _ _ h => (fails_computeCatalog h).1
  intro w next w' h
  obtain ⟨canonical, _, _, rfl⟩ := runs_computeCatalog.1 h
  rfl

theorem within_saveCatalog {path : String} (hpath : path ∈ paths) (format : Format) (c : Catalog) :
    Within paths (saveCatalog (m := StateM World) path format c) :=
  within_bind (within_say _ _) fun _ => within_bind (within_check _ _) fun text =>
    within_writeText hpath text

theorem within_saveCoordinates (c : Catalog) {file : Option String}
    (hfile : ∀ p ∈ file.toList, p ∈ paths) :
    Within paths (saveCoordinates (m := StateM World) c file) := by
  cases file with
  | none => exact within_pure ()
  | some path =>
    exact within_bind (within_say _ _) fun _ => within_bind (within_check _ _) fun text =>
      within_writeText (hfile path List.mem_cons_self) text

theorem within_verifyCatalog (path : String) (c : Catalog) (wanted : Bool) :
    Within paths (verifyCatalog (m := StateM World) path c wanted) := by
  refine within_of_still ?_ fun _ _ _ h => (fails_verifyCatalog h).2.1
  intro w u w' h
  rw [(runs_verifyCatalog.1 h).2]
  rfl

/-- The results are written. -/
theorem within_publish (r : UpdateRequest) (next : Catalog) {target : String}
    (htarget : target ∈ paths) (hcoord : ∀ p ∈ r.coordFile.toList, p ∈ paths) :
    Within paths (publish r target next) := by
  unfold publish
  refine within_bind (within_saveCatalog htarget r.format next) fun _ =>
    within_bind (within_saveCoordinates next hcoord) fun _ =>
      within_bind (within_verifyCatalog target next r.verify) fun _ => ?_
  cases r.remind with
  | false => exact within_pure ()
  | true => exact within_say _ _

end Parts

/-- **An update** touches the files that it writes. -/
theorem within_update {web : Web (StateM World)} (s : Settings) {r : UpdateRequest}
    (hweb : r.inputFile = none → web.Still) : Within (resultFiles r) (update web s r) := by
  rw [update_eq]
  cases htarget : r.updatedFile.or r.currentFile with
  | none => exact within_throw _
  | some target =>
    have hmem : target ∈ resultFiles r := by
      have ht : r.target = some target := htarget
      rw [resultFiles, ht]
      exact List.mem_append_right _ List.mem_cons_self
    exact within_bind (within_gather s hweb) fun i =>
      within_bind (within_saveStations i.stations mem_resultFiles_snapshot) fun _ =>
        within_bind (within_computeCatalog s i) fun next =>
          within_publish r next hmem mem_resultFiles_coord

/-- **A listing** touches the file that it goes to, or none. -/
theorem within_coords (r : CoordsRequest) :
    Within r.output.toList (coords (m := StateM World) r) := by
  unfold coords
  refine within_bind (within_readCatalog r.catalog) fun catalog =>
    within_bind (within_check _ _) fun text => ?_
  cases r.output with
  | some path => exact within_writeText List.mem_cons_self text
  | none =>
    refine within_bind (within_of_still ?_ fun _ _ _ h => absurd h not_fails_lift) fun x => ?_
    · intro w x w' h
      have hprint : ((.ok (), { w with printed := w.printed ++ text }) :
          Except Fault Unit × World) = (x, w') := runs_lift.1 h
      rw [← (Prod.mk.inj hprint).2]
    · cases x with
      | ok u => exact within_pure ()
      | error e => exact within_throw _

/-! ## 4. The whole program -/

/-- The files that a command is asked to write. -/
def Request.results : Request → List String
  | .update r => resultFiles r
  | .coords r => r.output.toList

/-- The command has no input file, so it searches the registry. -/
def Request.Searches (q : Request) : Prop := ∃ r, q = .update r ∧ r.inputFile = none

theorem within_execute {web : Web (StateM World)} (standardFile : String) {c : CommandLine}
    (hweb : c.request.Searches → web.Still) :
    Within c.request.results (execute web standardFile c) := by
  have hload : Within c.request.results
      (loadSettings (m := StateM World) standardFile c.settingsFile) := by
    refine within_of_still ?_ ?_
    · intro w s w' h
      rw [(runs_loadSettings.1 h).2]
    · intro w e w' h
      rw [(fails_loadSettings h).1]
  unfold execute
  refine within_bind hload fun s => ?_
  cases hr : c.request with
  | update r => exact within_update s fun hinput => hweb ⟨r, hr, hinput⟩
  | coords r => exact within_coords r

/-- **A run touches the files that it is asked to write**, and their temporary names. Everything
    else is as it was, present or absent, whether the run succeeds or fails, and whatever the
    registry answers: what stands at a place that none of these files has stays there, unless that is
    the temporary name of one of them, where nothing stands then. So any other path name, that of an
    input included, is untouched. All that is asked of the web client is that it leaves files
    alone. -/
theorem run_touches {web : Web (StateM World)} (e : Environment) {c : CommandLine}
    (hweb : c.request.Searches → web.Still) (disk : Disk) :
    let t := transcribeCommand web e c disk
    (∀ l, (∀ p ∈ c.request.results, disk.locate p ≠ .ok l) →
        t.disk.lookup? l = disk.lookup? l ∨
          t.disk.lookup? l = none ∧
            ∃ p ∈ c.request.results, disk.locate (temporary p) = .ok l) ∧
      ∀ path, (∀ p ∈ c.request.results,
          disk.Apart path p ∧ disk.Apart path (temporary p)) →
        t.disk.entryAt path = disk.entryAt path := by
  intro t
  have htouches : Disk.Touches c.request.results disk t.disk := by
    have hwithin := within_execute e.standardFile hweb
    rcases runs_or_fails (execute web e.standardFile c) ⟨disk, [], ""⟩ with
      ⟨u, w, hrun⟩ | ⟨a, w, hfail⟩
    · have ht : t = _ := transcribeCommand_of_runs hrun
      rw [ht]
      exact hwithin.runs _ _ _ hrun
    · have ht : t = _ := transcribeCommand_of_fails hfail
      rw [ht]
      exact hwithin.fails _ _ _ hfail
  exact ⟨htouches.kept, fun path hpath => htouches.entryAt_eq hpath⟩

/-- An update from the registry succeeds, and neither the allow-list that it reads nor the snapshot
    beside it is touched. -/
theorem run_touches_example :
    let t := transcribeCommand exampleWeb exampleEnvironment (lineOf (.update liveRequest)) exampleDisk
    t.code = 0 ∧ resultFiles liveRequest = ["saved", "sites", "coords"] ∧
      t.disk.entryAt "other" = some (.file (.text "id,by\nB,HOMR\n")) ∧
      t.disk.entryAt "stations" = exampleDisk.entryAt "stations" := by
  have hother : ∀ p ∈ resultFiles liveRequest,
      exampleDisk.Apart "other" p ∧ exampleDisk.Apart "other" (temporary p) := by decide
  have hstations : ∀ p ∈ resultFiles liveRequest,
      exampleDisk.Apart "stations" p ∧ exampleDisk.Apart "stations" (temporary p) := by decide
  have huntouched := (@run_touches exampleWeb exampleEnvironment (lineOf (.update liveRequest))
    (fun _ => Web.still_steady exampleAnswers) exampleDisk).2
  exact ⟨code_live, rfl, huntouched "other" hother, huntouched "stations" hstations⟩

/-! ## 5. A current file with the temporary name of the updated one -/

/-- Two catalogs without records, one of them at the temporary name of `sites`. -/
def clashDisk : Disk where
  entries := [(["sites.tmp"], .file (.text "[]")), (["stations"], .file (.text "[]"))]
  start := []

/-- The update of the one at the temporary name. -/
def clashRequest : UpdateRequest :=
  { exampleRequest with currentFile := some "sites.tmp", updatedFile := some "sites" }

def clashLine : CommandLine := lineOf (.update clashRequest)

/-- **Not all other files are untouched.** The update of `sites.tmp` into `sites` succeeds, and its
    current file, which it is not asked to write, is gone. -/
theorem temporary_file_lost :
    let t := transcribeCommand .absent exampleEnvironment clashLine clashDisk
    t.code = 0 ∧ clashDisk.Apart "sites.tmp" "sites" ∧
      clashDisk.entryAt "sites.tmp" = some (.file (.text "[]")) ∧
      t.disk.entryAt "sites.tmp" = none ∧
      ¬ ∀ (e : Environment) (c : CommandLine) (disk : Disk) (l : Location),
        (∀ p ∈ c.request.results, disk.locate p ≠ .ok l) →
          (transcribeCommand .absent e c disk).disk.lookup? l = disk.lookup? l := by
  intro t
  refine ⟨by decide +kernel, by decide, by decide, by decide +kernel, ?_⟩
  intro huntouched
  have hkept := huntouched exampleEnvironment clashLine clashDisk ["sites.tmp"] (by decide)
  have hgone : t.disk.lookup? ["sites.tmp"] = none := by decide +kernel
  rw [hgone] at hkept
  exact absurd hkept (by decide)

end RadarCatalog.Command
