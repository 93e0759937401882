import RadarCatalog.Command.Transcript
import RadarCatalog.Proofs.Command.Stages
import RadarCatalog.Proofs.Settings

/-!
# Runs of the whole program

* `runs_loadSettings`: the settings that a run goes by, which are sound (`SettingsAre.sound`);
* `runs_execute`: a run of `update` is an update with these settings; `fails_execute`: it fails
  before anything is done if they are not to be had, and `ending_update` is the other failure;
* `code_eq_zero`: the exit code is zero exactly for a run that succeeds, and
  `transcribeCommand_of_runs` and `transcribeCommand_of_fails` are what a run shows.
-/

namespace RadarCatalog.Command

open RadarCatalog.Files RadarCatalog.Update

variable {web : Web (StateM World)}

/-! ## 1. Settings -/

/-- The settings that a disk holds, in the named file or else in the standard one. -/
def SettingsAre (d : Disk) (standardFile : String) : Option String → Settings → Prop
  | some path, s => ∃ text, d.read path = .ok (.text text) ∧ Settings.parse text = .ok s
  | none, s =>
    if d.isPresent standardFile then
      ∃ text, d.read standardFile = .ok (.text text) ∧ Settings.parse text = .ok s
    else s = Settings.standard

theorem runs_readSettings {path : String} {s : Settings} {w w' : World} :
    Runs (readSettings (m := StateM World) path) w s w' ↔
      (∃ text, w.disk.read path = .ok (.text text) ∧ Settings.parse text = .ok s) ∧ w' = w := by
  unfold readSettings
  rw [runs_bind]
  constructor
  · intro h
    obtain ⟨x, w₁, hx, h⟩ := h
    have hread : ((w.disk.read path, w) : Except Fault Content × World) = (x, w₁) := runs_lift.1 hx
    obtain ⟨rfl, rfl⟩ := Prod.mk.inj hread
    split at h
    · exact absurd h not_runs_throw
    · exact absurd h not_runs_throw
    · rename_i text htext
      split at h
      · rename_i settings hsettings
        obtain ⟨rfl, rfl⟩ := runs_pure.1 h
        exact ⟨⟨text, htext, hsettings⟩, rfl⟩
      · exact absurd h not_runs_throw
      · exact absurd h not_runs_throw
  · intro h
    obtain ⟨⟨text, htext, hsettings⟩, rfl⟩ := h
    refine ⟨.ok (.text text), w', runs_lift.2 ?_, ?_⟩
    · show ((w'.disk.read path, w') : Except Fault Content × World) = _
      rw [htext]
    · simp only [hsettings]
      exact runs_pure.2 ⟨rfl, rfl⟩

theorem runs_loadSettings {standardFile : String} {file : Option String} {s : Settings}
    {w w' : World} : Runs (loadSettings (m := StateM World) standardFile file) w s w' ↔
      SettingsAre w.disk standardFile file s ∧ w' = w := by
  cases file with
  | some path => exact runs_readSettings
  | none =>
    simp only [loadSettings, SettingsAre]
    rw [runs_bind]
    constructor
    · intro h
      obtain ⟨present, w₁, hpresent, h⟩ := h
      have he : ((w.disk.isPresent standardFile, w) : Bool × World) = (present, w₁) :=
        runs_lift.1 hpresent
      obtain ⟨rfl, rfl⟩ := Prod.mk.inj he
      split at h
      · rename_i hp
        rw [if_pos hp]
        exact runs_readSettings.1 h
      · rename_i hp
        rw [if_neg hp]
        exact runs_pure.1 h
    · intro h
      obtain ⟨h, rfl⟩ := h
      refine ⟨w'.disk.isPresent standardFile, w', runs_lift.2 rfl, ?_⟩
      split at h
      · rename_i hp
        rw [if_pos hp]
        exact runs_readSettings.2 ⟨h, rfl⟩
      · rename_i hp
        rw [if_neg hp]
        exact runs_pure.2 ⟨h, rfl⟩

theorem fails_readSettings {path : String} {e : Abort} {w w' : World}
    (h : Fails (readSettings (m := StateM World) path) w e w') : w' = w ∧ e.code = 6 := by
  unfold readSettings at h
  rcases fails_bind.1 h with hlift | ⟨x, w₁, hx, hrest⟩
  · exact absurd hlift not_fails_lift
  have hread : ((w.disk.read path, w) : Except Fault Content × World) = (x, w₁) := runs_lift.1 hx
  obtain ⟨_, rfl⟩ := Prod.mk.inj hread
  split at hrest
  · obtain ⟨rfl, rfl⟩ := fails_throw.1 hrest
    exact ⟨rfl, rfl⟩
  · obtain ⟨rfl, rfl⟩ := fails_throw.1 hrest
    exact ⟨rfl, rfl⟩
  · split at hrest
    · exact absurd hrest not_fails_pure
    · obtain ⟨rfl, rfl⟩ := fails_throw.1 hrest
      exact ⟨rfl, rfl⟩
    · obtain ⟨rfl, rfl⟩ := fails_throw.1 hrest
      exact ⟨rfl, rfl⟩

/-- Settings that are not to be had change nothing. -/
theorem fails_loadSettings {standardFile : String} {file : Option String} {e : Abort}
    {w w' : World} (h : Fails (loadSettings (m := StateM World) standardFile file) w e w') :
    w' = w ∧ e.code = 6 := by
  cases file with
  | some path => exact fails_readSettings h
  | none =>
    unfold loadSettings at h
    rcases fails_bind.1 h with hlift | ⟨present, w₁, hpresent, hrest⟩
    · exact absurd hlift not_fails_lift
    have he : ((w.disk.isPresent standardFile, w) : Bool × World) = (present, w₁) :=
      runs_lift.1 hpresent
    obtain ⟨_, rfl⟩ := Prod.mk.inj he
    split at hrest
    · exact fails_readSettings hrest
    · exact absurd hrest not_fails_pure

/-- Without a settings file a run goes by the standard settings. -/
theorem settingsAre_standard {d : Disk} {standardFile : String}
    (habsent : d.isPresent standardFile = false) :
    SettingsAre d standardFile none Settings.standard := by
  simp only [SettingsAre, habsent, Bool.false_eq_true, if_false]

/-- **The settings of a run are sound**, wherever they are from. -/
theorem SettingsAre.sound {d : Disk} {standardFile : String} {file : Option String} {s : Settings}
    (h : SettingsAre d standardFile file s) : s.Sound := by
  have hparsed : ∀ {path : String},
      (∃ text, d.read path = .ok (.text text) ∧ Settings.parse text = .ok s) → s.Sound := by
    rintro path ⟨text, _, hparse⟩
    exact (Settings.parse_eq_ok_iff.1 hparse).2
  cases file with
  | some path => exact hparsed h
  | none =>
    simp only [SettingsAre] at h
    split at h
    · exact hparsed h
    · rw [h]
      exact Settings.sound_standard

/-- Settings in a file that is not written are the same before and after. -/
theorem SettingsAre.of_changesOnly {d d' : Disk} {paths : List String}
    (hc : Disk.ChangesOnly paths d d') {standardFile : String} {file : Option String}
    (hapart : ∀ q ∈ paths, d.Apart (file.getD standardFile) q) {s : Settings}
    (h : SettingsAre d standardFile file s) : SettingsAre d' standardFile file s := by
  cases file with
  | some path =>
    obtain ⟨text, hread, hparse⟩ := h
    exact ⟨text, hc.read hapart hread, hparse⟩
  | none =>
    have hpresent : d'.isPresent standardFile = d.isPresent standardFile := hc.isPresent hapart
    simp only [SettingsAre, hpresent] at h ⊢
    split at h
    · rename_i hp
      rw [if_pos hp]
      obtain ⟨text, hread, hparse⟩ := h
      exact ⟨text, hc.read hapart hread, hparse⟩
    · rename_i hp
      rw [if_neg hp]
      exact h

/-! ## 2. Runs -/

theorem runs_execute {standardFile : String} {c : CommandLine} {r : UpdateRequest}
    (hr : c.request = .update r) {u : Unit} {w w' : World} :
    Runs (execute web standardFile c) w u w' ↔
      ∃ s, SettingsAre w.disk standardFile c.settingsFile s ∧ Runs (update web s r) w u w' := by
  unfold execute
  rw [runs_bind]
  simp only [hr]
  constructor
  · intro h
    obtain ⟨s, w₁, hload, hrun⟩ := h
    obtain ⟨hs, rfl⟩ := runs_loadSettings.1 hload
    exact ⟨s, hs, hrun⟩
  · intro h
    obtain ⟨s, hs, hrun⟩ := h
    exact ⟨s, w, runs_loadSettings.2 ⟨hs, rfl⟩, hrun⟩

/-- **A run of `update` fails** at the settings, or as the update does. -/
theorem fails_execute {standardFile : String} {c : CommandLine} {r : UpdateRequest}
    (hr : c.request = .update r) {e : Abort} {w w' : World}
    (h : Fails (execute web standardFile c) w e w') :
    (w' = w ∧ e.code = 6) ∨
      ∃ s, SettingsAre w.disk standardFile c.settingsFile s ∧ Fails (update web s r) w e w' := by
  unfold execute at h
  rw [fails_bind] at h
  simp only [hr] at h
  rcases h with hload | ⟨s, w₁, hload, hrun⟩
  · exact .inl (fails_loadSettings hload)
  · obtain ⟨hs, rfl⟩ := runs_loadSettings.1 hload
    exact .inr ⟨s, hs, hrun⟩

/-- Every failure has an exit code other than zero. -/
theorem code_ne_zero : ∀ a : Abort, a.code ≠ 0
  | .noTarget | .settingsUnread _ _ | .settingsForm _ | .settingsDefect _ | .search _
  | .unprinted _ => Nat.succ_ne_zero _
  | .update f => by
    show failureCode f ≠ 0
    unfold failureCode
    split
    · decide
    · cases f <;> exact Nat.succ_ne_zero _

/-- What a run that succeeds shows and leaves. -/
theorem transcribeCommand_of_runs {e : Environment} {c : CommandLine} {disk : Disk} {u : Unit}
    {w : World} (h : Runs (execute web e.standardFile c) ⟨disk, [], ""⟩ u w) :
    transcribeCommand web e c disk =
      ⟨0, false, w.printed, (Text.linesOf (String.join ((logFilter e c).2.map (· ++ "\n") ++
        logTexts (logFilter e c).1 e.hasColours w.journal ++ [])).toList).map String.ofList,
        w.disk⟩ := by
  have h : ((execute web e.standardFile c).run ⟨disk, [], ""⟩ :
      Except Abort Unit × World) = (.ok u, w) := h
  unfold transcribeCommand
  rw [h]
  rfl

/-- What a run that fails shows and leaves. -/
theorem transcribeCommand_of_fails {e : Environment} {c : CommandLine} {disk : Disk} {a : Abort}
    {w : World} (h : Fails (execute web e.standardFile c) ⟨disk, [], ""⟩ a w) :
    transcribeCommand web e c disk =
      ⟨a.code, false, w.printed, (Text.linesOf (String.join ((logFilter e c).2.map (· ++ "\n") ++
        logTexts (logFilter e c).1 e.hasColours w.journal ++
        (a.report e.standardFile).map (· ++ "\n"))).toList).map String.ofList, w.disk⟩ := by
  have h : ((execute web e.standardFile c).run ⟨disk, [], ""⟩ :
      Except Abort Unit × World) = (.error a, w) := h
  unfold transcribeCommand
  rw [h]

/-- **The exit code is zero exactly for a run that succeeds.** -/
theorem code_eq_zero {e : Environment} {c : CommandLine} {disk : Disk} :
    (transcribeCommand web e c disk).code = 0 ↔
      ∃ w, Runs (execute web e.standardFile c) ⟨disk, [], ""⟩ () w := by
  constructor
  · intro h
    rcases runs_or_fails (execute web e.standardFile c) ⟨disk, [], ""⟩ with
      ⟨u, w, hrun⟩ | ⟨a, w, hfail⟩
    · exact ⟨w, hrun⟩
    · rw [transcribeCommand_of_fails hfail] at h
      exact absurd h (code_ne_zero a)
  · intro h
    obtain ⟨w, hrun⟩ := h
    rw [transcribeCommand_of_runs hrun]

/-- How a run ends. -/
def ending (web : Web (StateM World)) (e : Environment) (c : CommandLine) (disk : Disk) :
    Except Abort Unit :=
  ((execute web e.standardFile c).run ⟨disk, [], ""⟩ : Except Abort Unit × World).1

/-- **A run ends in a failure** exactly if it fails. -/
theorem ending_eq_error {e : Environment} {c : CommandLine} {disk : Disk} {a : Abort} :
    ending web e c disk = .error a ↔
      ∃ w, Fails (execute web e.standardFile c) ⟨disk, [], ""⟩ a w := by
  constructor
  · intro h
    exact ⟨_, Prod.ext h rfl⟩
  · intro h
    obtain ⟨w, hfail⟩ := h
    exact congrArg Prod.fst hfail

/-- An update that fails ends its run. -/
theorem ending_update {e : Environment} {c : CommandLine} {r : UpdateRequest}
    (hr : c.request = .update r) {s : Settings} {disk : Disk}
    (hs : SettingsAre disk e.standardFile c.settingsFile s) {a : Abort} {w : World}
    (h : Fails (update web s r) ⟨disk, [], ""⟩ a w) : ending web e c disk = .error a := by
  refine ending_eq_error.2 ⟨w, ?_⟩
  unfold execute
  simp only [hr]
  exact fails_bind.2 (.inr ⟨s, _, runs_loadSettings.2 ⟨hs, rfl⟩, h⟩)

/-- The exit code tells how a run that fails ends. -/
theorem code_of_ending {e : Environment} {c : CommandLine} {disk : Disk} {a : Abort}
    (h : ending web e c disk = .error a) : (transcribeCommand web e c disk).code = a.code := by
  obtain ⟨w, hfail⟩ := ending_eq_error.1 h
  rw [transcribeCommand_of_fails hfail]

end RadarCatalog.Command
