import RadarCatalog.Proofs.Command.Courses

/-!
# What a failed update leaves behind

The exit code of an update tells which of its files may have changed, if these are different ones
and none of their temporary names is taken.

* `Leaves` has one case for a failure before anything is written, one for a failure up to the
  catalog, and one for a failure of the listing. `leaves_of_stops`: there are no others. A catalog
  that is reconciled has a text, and what is written is verified.
* `failed_update_leaves` is the result for the whole program.
-/

namespace RadarCatalog.Command

open RadarCatalog.Catalog RadarCatalog.Files RadarCatalog.Registry RadarCatalog.Update

/-! ## 1. The files of an update -/

/-- The files that an update writes and their temporary names are different ones, and nothing
    stands at the temporary names. -/
structure Ready (r : UpdateRequest) (d : Disk) : Prop where
  apart : ((resultFiles r).flatMap fun p => [temporary p, p]).Pairwise d.Apart
  free : ∀ p ∈ resultFiles r, d.isPresent (temporary p) = false

section Ready

variable {r : UpdateRequest} {d d' : Disk} (h : Ready r d)
include h

theorem Ready.written {target : String} (ht : r.target = some target) :
    (writtenFiles r target).Pairwise d.Apart := by
  have happart := h.apart
  rw [resultFiles, ht, List.flatMap_append, List.flatMap_append] at happart
  exact happart

/-- A temporary name is apart from all files. -/
theorem Ready.temporary_apart : ∀ p ∈ resultFiles r, ∀ q ∈ resultFiles r,
    d.Apart (temporary p) q := by
  have hpairs := (List.pairwise_flatMap.1 h.apart).2
  have hself : ∀ p ∈ resultFiles r, d.Apart (temporary p) p := fun p _ l hl hl' =>
    Disk.locate_temporary_ne hl' hl rfl
  have hlater : (resultFiles r).Pairwise fun p q => d.Apart (temporary p) q := hpairs.imp
    fun hpq => hpq _ List.mem_cons_self _ (List.mem_cons_of_mem _ List.mem_cons_self)
  have hearlier : (resultFiles r).Pairwise fun p q => d.Apart (temporary q) p := hpairs.imp
    fun hpq => (hpq _ (List.mem_cons_of_mem _ List.mem_cons_self) _ List.mem_cons_self).symm
  intro p hp q hq
  exact hlater.forall_of_forall_of_flip hself hearlier hp hq

/-- The temporary names are free on a disk where nothing but the files has changed. -/
theorem Ready.free_of_changesOnly {paths : List String} (hsub : ∀ p ∈ paths, p ∈ resultFiles r)
    (hc : Disk.ChangesOnly paths d d') :
    ∀ p ∈ resultFiles r, d'.isPresent (temporary p) = false := by
  intro p hp
  rw [hc.isPresent fun q hq => h.temporary_apart p hp q (hsub q hq)]
  exact h.free p hp

end Ready

/-! ## 2. What changes along a course -/

theorem spared_sameFiles {d d' : Disk} {path : String} (h : Spared d path d')
    (hfree : d.isPresent (temporary path) = false) : Disk.SameFiles d d' := by
  rcases h with rfl | ⟨text, h⟩
  · exact ⟨rfl, fun _ => rfl⟩
  · exact h.sameFiles hfree

theorem saves_changes {d d' : Disk} {file : Option String} {text : String}
    (h : Saves d file text d') (hfree : ∀ p ∈ file.toList, d.isPresent (temporary p) = false) :
    Disk.ChangesOnly file.toList d d' := by
  cases file with
  | none =>
    obtain rfl : d' = d := h
    exact .refl _ d'
  | some path => exact Disk.Replaces.changesOnly h (hfree path List.mem_cons_self)

section Course

variable {s : Settings} {r : UpdateRequest} {d d' : Disk} {c : Course} (h : Ready r d)

theorem mem_resultFiles_snapshot : ∀ p ∈ r.snapshotFile.toList, p ∈ resultFiles r :=
  fun _ hp => List.mem_append_left _ hp

theorem mem_resultFiles_coord : ∀ p ∈ r.coordFile.toList, p ∈ resultFiles r :=
  fun _ hp => List.mem_append_right _ (List.mem_append_right _ hp)

theorem Course.Prepared.mem_resultFiles (hc : c.Prepared s r d) : c.target ∈ resultFiles r := by
  have ht : r.target = some c.target := hc.target
  rw [resultFiles, ht]
  exact List.mem_append_right _ List.mem_cons_self

theorem Course.Wrote.mem_resultFiles_written (hc : c.Wrote s r d) :
    ∀ p ∈ r.snapshotFile.toList ++ [c.target], p ∈ resultFiles r := by
  intro p hp
  rcases List.mem_append.1 hp with hp | hp
  · exact mem_resultFiles_snapshot p hp
  · obtain rfl := List.mem_singleton.1 hp
    exact hc.mem_resultFiles

include h

/-- A snapshot that is saved is the only change. -/
theorem changesOnly_saved {text : String} (hsaved : Saves d r.snapshotFile text d') :
    Disk.ChangesOnly r.snapshotFile.toList d d' :=
  saves_changes hsaved fun p hp => h.free p (mem_resultFiles_snapshot p hp)

/-- A written catalog is the only other change. -/
theorem changesOnly_written (hc : c.Wrote s r d) :
    Disk.ChangesOnly (r.snapshotFile.toList ++ [c.target]) d c.written := by
  have hsaved := changesOnly_saved h hc.saved
  have hfree := h.free_of_changesOnly mem_resultFiles_snapshot hsaved
  exact hsaved.trans (hc.written.changesOnly (hfree _ hc.mem_resultFiles))

/-- An update that succeeds changes the files that it writes. -/
theorem changesOnly_final (hc : c.Listed s r d) : Disk.ChangesOnly (resultFiles r) d c.final := by
  have hwritten := changesOnly_written h hc.toWrote
  have hsub := hc.mem_resultFiles_written
  have hfree := h.free_of_changesOnly hsub hwritten
  have hfinal := saves_changes hc.final fun p hp => hfree p (mem_resultFiles_coord p hp)
  refine (hwritten.trans hfinal).mono ?_
  intro p hp
  rcases List.mem_append.1 hp with hp | hp
  · exact hsub p hp
  · exact mem_resultFiles_coord p hp

end Course

/-! ## 3. Where an update stops -/

/-- The listing of the catalog fails: a record has no coordinates, or its file is not written. -/
def Unlisted (c : Course) (s : Settings) (r : UpdateRequest) (e : Abort) : Prop :=
  ∃ path, r.coordFile = some path ∧
    ((∃ ce, (c.next s).coordinates = .error ce ∧ e = .update (.coordinate ce)) ∨ Unwritten path e)

theorem code_unwritten {path : String} {e : Abort} (h : Unwritten path e) : e.code = 1 := by
  obtain ⟨p, cause, rfl, _⟩ := h
  rfl

theorem code_unlisted {c : Course} {s : Settings} {r : UpdateRequest} {e : Abort}
    (h : Unlisted c s r e) : e.code = 1 := by
  obtain ⟨path, _, ⟨ce, _, rfl⟩ | hunwritten⟩ := h
  · rfl
  · exact code_unwritten hunwritten

/-- Inputs that cannot be used. Only the keys of a catalog have a code of their own. -/
theorem code_unread {r : UpdateRequest} {d : Disk} {e : Abort} (h : Unread r d e)
    (hinput : r.inputFile.isSome = true) : e.code = 2 ∨ e.code = 3 := by
  cases h with
  | file path cause => exact .inl rfl
  | @catalog path text e current read parse =>
    show failureCode (.catalog e) = 2 ∨ failureCode (.catalog e) = 3
    unfold failureCode
    split
    · exact .inr rfl
    · exact .inl rfl
  | stations unsupplied =>
    cases unsupplied with
    | search input =>
      rw [input] at hinput
      cases hinput
    | file path cause => exact .inl rfl
    | snapshot e => exact .inl rfl

/-- What an update that fails leaves behind: the disk as it was; the snapshot, at the most; or the
    whole next catalog without its listing. -/
inductive Leaves (s : Settings) (r : UpdateRequest) (d : Disk) : Abort → Disk → Prop where
  | nothing {e : Abort} (code : e.code = 2 ∨ e.code = 3) : Leaves s r d e d
  | snapshot {e : Abort} {d' : Disk} (code : e.code = 1 ∨ e.code = 6)
      (changes : Disk.ChangesOnly r.snapshotFile.toList d d') : Leaves s r d e d'
  | catalog {c : Course} {e : Abort} {d' : Disk} (wrote : c.Wrote s r d)
      (unlisted : Unlisted c s r e) (same : Disk.SameFiles c.written d') : Leaves s r d e d'

/-- **An update that fails leaves one of the three.** The other places where it might stop are never
    reached: the next catalog has a text, which is read back and verified. -/
theorem leaves_of_stops {s : Settings} {r : UpdateRequest} {d d' : Disk} {e : Abort}
    (hready : Ready r d) (hinput : r.inputFile.isSome = true) (h : Stops s r d e d') :
    Leaves s r d e d' := by
  cases h with
  | target absent => exact .nothing (.inl rfl)
  | inputs unread => exact .nothing (code_unread unread hinput)
  | @snapshot path e d' file unwritten spared =>
    have hmem : path ∈ resultFiles r := mem_resultFiles_snapshot path (Option.mem_toList.2 file)
    have hsame := spared_sameFiles spared (hready.free path hmem)
    exact .snapshot (.inl (code_unwritten unwritten)) (hsame.changesOnly.mono nofun)
  | stations inputs saved failure =>
    refine .snapshot (.inr ?_) (changesOnly_saved hready saved)
    rcases failure with ⟨se, rfl⟩ | ⟨ne, rfl⟩
    · rfl
    · rfl
  | render prepared render =>
    obtain ⟨text, htext⟩ := exists_render (sound_next prepared.inputs).2 r.format
    rw [htext] at render
    cases render
  | catalog prepared unwritten spared =>
    have hsaved := changesOnly_saved hready prepared.saved
    have hfree := hready.free_of_changesOnly mem_resultFiles_snapshot hsaved
    have hsame := spared_sameFiles spared (hfree _ prepared.mem_resultFiles)
    refine .snapshot (.inl (code_unwritten unwritten)) ?_
    exact (hsaved.trans hsame.changesOnly).mono fun p hp => by simpa using hp
  | coordinates wrote file coordinates =>
    exact .catalog wrote ⟨_, file, .inl ⟨_, coordinates, rfl⟩⟩ ⟨rfl, fun _ => rfl⟩
  | @listing c path e d' wrote file unwritten spared =>
    have hmem : path ∈ resultFiles r := mem_resultFiles_coord path (Option.mem_toList.2 file)
    have hfree := hready.free_of_changesOnly wrote.mem_resultFiles_written
      (changesOnly_written hready wrote)
    exact .catalog wrote ⟨_, file, .inr unwritten⟩ (spared_sameFiles spared (hfree path hmem))
  | reread listed unread =>
    exact absurd (listed.holds (hready.written listed.target)).read (unread _)
  | verification listed read verify =>
    rw [(listed.holds (hready.written listed.target)).read] at read
    cases read
    rw [verify_render (sound_next listed.inputs).1 listed.rendered] at verify
    cases verify

/-! ## 4. The whole program -/

section Run

variable {web : Web (StateM World)} {e : Environment} {c : CommandLine} {r : UpdateRequest}
  {disk : Disk}

/-- **How a run of an update ends**: along a course, at its settings, or with what a failed update
    leaves. -/
theorem end_cases (hr : c.request = .update r) (hinput : r.inputFile.isSome = true)
    (hready : Ready r disk) :
    let t := transcribeCommand web e c disk
    (t.code = 0 ∧ ∃ s course, Course.Of course s r disk ∧ t.disk = course.final) ∨
      (t.code = 6 ∧ t.disk = disk) ∨
      ∃ s a, SettingsAre disk e.standardFile c.settingsFile s ∧ ending web e c disk = .error a ∧
        t.code = a.code ∧ Leaves s r disk a t.disk := by
  intro t
  rcases runs_or_fails (execute web e.standardFile c) ⟨disk, [], ""⟩ with
    ⟨u, w, hrun⟩ | ⟨a, w, hfail⟩
  · have ht : t = _ := transcribeCommand_of_runs hrun
    obtain ⟨s, _, hupdate⟩ := (runs_execute hr).1 hrun
    obtain ⟨course, hcourse, rfl⟩ := (runs_update hinput).1 hupdate
    left
    rw [ht]
    exact ⟨rfl, s, course, hcourse, rfl⟩
  · have ht : t = _ := transcribeCommand_of_fails hfail
    right
    rcases fails_execute hr hfail with ⟨rfl, hcode⟩ | ⟨s, hs, hupdate⟩
    · left
      rw [ht]
      exact ⟨hcode, rfl⟩
    · right
      rw [ht]
      exact ⟨s, a, hs, ending_eq_error.2 ⟨w, hfail⟩, rfl,
        leaves_of_stops hready hinput
          (stops_of_fails (supplies_loadStations (still_of_input hinput)) hupdate)⟩

end Run

/-! ## 5. By the exit code -/

section Code

variable {s : Settings} {r : UpdateRequest} {d d' : Disk} {a : Abort}

theorem Leaves.code (h : Leaves s r d a d') : a.code ∈ [1, 2, 3, 6] := by
  cases h with
  | nothing code => rcases code with code | code <;> simp [code]
  | snapshot code changes => rcases code with code | code <;> simp [code]
  | catalog wrote unlisted same => simp [code_unlisted unlisted]

theorem Leaves.eq_of_code (h : Leaves s r d a d') (hcode : a.code = 2 ∨ a.code = 3) : d' = d := by
  cases h with
  | nothing code => rfl
  | snapshot code changes => omega
  | catalog wrote unlisted same =>
    have := code_unlisted unlisted
    omega

theorem Leaves.snapshot_of_code (h : Leaves s r d a d') (hcode : a.code = 6) :
    Disk.ChangesOnly r.snapshotFile.toList d d' := by
  cases h with
  | nothing code => exact .refl _ d
  | snapshot code changes => exact changes
  | catalog wrote unlisted same =>
    have := code_unlisted unlisted
    omega

variable (hready : Ready r d)
include hready

theorem Ready.target_apart {target : String} (ht : r.target = some target) :
    ∀ p ∈ r.snapshotFile.toList, d.Apart target p := by
  intro p hp
  obtain ⟨_, _, hsnapshot⟩ := List.pairwise_append.1 (hready.written ht)
  refine (hsnapshot p ?_ target ?_).symm
  · exact List.mem_flatMap.2 ⟨p, hp, List.mem_cons_of_mem _ List.mem_cons_self⟩
  · exact List.mem_append_left _ (List.mem_cons_of_mem _ List.mem_cons_self)

/-- The file of the catalog, after a failure with code 1. -/
theorem Leaves.target_of_code (h : Leaves s r d a d') (hcode : a.code = 1) {target : String}
    (ht : r.target = some target) :
    d'.entryAt target = d.entryAt target ∨ ∃ course : Course, course.Wrote s r d ∧
      Unlisted course s r a ∧ d'.entryAt target = some (.file (.text course.text)) := by
  cases h with
  | nothing code => omega
  | snapshot code changes => exact .inl (changes.entryAt_eq (hready.target_apart ht))
  | @catalog course a d' wrote unlisted same =>
    have htarget : r.target = some course.target := wrote.target
    rw [ht] at htarget
    cases htarget
    exact .inr ⟨course, wrote, unlisted, (wrote.written.holds.of_sameFiles same).entryAt⟩

/-- A failure changes no file but those that the update writes. -/
theorem Leaves.changesOnly (h : Leaves s r d a d') : Disk.ChangesOnly (resultFiles r) d d' := by
  cases h with
  | nothing code => exact .refl _ d
  | snapshot code changes => exact changes.mono mem_resultFiles_snapshot
  | catalog wrote unlisted same =>
    refine ((changesOnly_written hready wrote).trans same.changesOnly).mono ?_
    intro p hp
    rw [List.append_nil] at hp
    exact wrote.mem_resultFiles_written p hp

end Code

/-- **What a failed update leaves behind**, by its exit code. With code 2 or 3 nothing has changed;
    with code 6 nothing but the snapshot; with code 1 the file of the catalog holds what it held, or
    the whole next catalog if the listing is what failed. There is no code 4, and after every run
    all temporary names are free. -/
theorem failed_update_leaves {web : Web (StateM World)} {e : Environment} {c : CommandLine}
    {r : UpdateRequest} {disk : Disk} (hr : c.request = .update r)
    (hinput : r.inputFile.isSome = true) (hready : Ready r disk) :
    let t := transcribeCommand web e c disk
    t.code ∈ [0, 1, 2, 3, 6] ∧
      (t.code = 2 ∨ t.code = 3 → t.disk = disk) ∧
      (t.code = 6 → Disk.ChangesOnly r.snapshotFile.toList disk t.disk) ∧
      (t.code = 1 → ∀ target, r.target = some target →
        t.disk.entryAt target = disk.entryAt target ∨
          ∃ s course a, SettingsAre disk e.standardFile c.settingsFile s ∧
            Course.Wrote course s r disk ∧ ending web e c disk = .error a ∧ Unlisted course s r a ∧
            t.disk.entryAt target = some (.file (.text course.text))) ∧
      ∀ p ∈ resultFiles r, t.disk.isPresent (temporary p) = false := by
  intro t
  rcases end_cases (e := e) hr hinput hready with
    ⟨hcode, s, course, hcourse, hdisk⟩ | ⟨hcode, hdisk⟩ | ⟨s, a, hs, hending, hcode, hleaves⟩
  · have hcode : t.code = 0 := hcode
    have hchanges : Disk.ChangesOnly (resultFiles r) disk t.disk := by
      rw [show t.disk = course.final from hdisk]
      exact changesOnly_final hready hcourse.toListed
    refine ⟨by simp [hcode], by omega, by omega, by omega, ?_⟩
    exact hready.free_of_changesOnly (fun p hp => hp) hchanges
  · have hcode : t.code = 6 := hcode
    have hdisk : t.disk = disk := hdisk
    refine ⟨by simp [hcode], by omega, ?_, by omega, ?_⟩
    · intro _
      rw [hdisk]
      exact .refl _ disk
    · rw [hdisk]
      exact hready.free
  · have hcode : t.code = a.code := hcode
    refine ⟨?_, ?_, ?_, ?_, ?_⟩
    · rw [hcode]
      exact List.mem_cons_of_mem _ hleaves.code
    · rw [hcode]
      exact hleaves.eq_of_code
    · rw [hcode]
      exact hleaves.snapshot_of_code
    · intro hone target ht
      rw [hcode] at hone
      rcases hleaves.target_of_code hready hone ht with hsame | ⟨course, hwrote, hlisting, hfile⟩
      · exact .inl hsame
      · exact .inr ⟨s, course, a, hs, hwrote, hending, hlisting, hfile⟩
    · exact hready.free_of_changesOnly (fun p hp => hp) (hleaves.changesOnly hready)

/-- Nothing but a snapshot. -/
def snapshotDisk (text : String) : Disk where
  entries := [(["stations"], .file (.text text))]
  start := []

/-- A fresh catalog, with a listing in a directory that is not there. -/
def unlistedRequest : UpdateRequest :=
  { exampleRequest with
    currentFile := none
    updatedFile := some "fresh"
    coordFile := some "missing/coords" }

/-- The catalog is written, the listing is not, and neither leaves a temporary file. -/
theorem failed_update_leaves_example :
    let c := lineOf (.update unlistedRequest)
    let disk := snapshotDisk "[]"
    let t := transcribeCommand .absent exampleEnvironment c disk
    t.code = 1 ∧ t.disk.entryAt "fresh" = some (.file (.text "[\n]\n")) ∧
      (∃ s course a, ending .absent exampleEnvironment c disk = .error a ∧
        Unlisted course s unlistedRequest a) ∧
      t.disk.isPresent "fresh.tmp" = false ∧ t.disk.isPresent "missing/coords.tmp" = false := by
  intro c disk t
  have hready : Ready unlistedRequest disk := ⟨by decide, by decide⟩
  have hcode : t.code = 1 := by decide +kernel
  have hfile : t.disk.entryAt "fresh" = some (.file (.text "[\n]\n")) := by decide +kernel
  obtain ⟨_, _, _, hone, hfree⟩ :=
    @failed_update_leaves .absent exampleEnvironment c unlistedRequest disk rfl rfl hready
  refine ⟨hcode, hfile, ?_, hfree "fresh" (by decide), hfree "missing/coords" (by decide)⟩
  rcases hone hcode "fresh" rfl with hsame | ⟨s, course, a, _, _, hending, hunlisted, _⟩
  · have hbefore : disk.entryAt "fresh" = none := by decide
    have hafter := hsame.trans hbefore
    rw [hfile] at hafter
    cases hafter
  · exact ⟨s, course, a, hending, hunlisted⟩

end RadarCatalog.Command
