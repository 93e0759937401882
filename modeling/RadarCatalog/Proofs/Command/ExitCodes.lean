import RadarCatalog.Proofs.Command.Failures
import RadarCatalog.Proofs.Registry.Payloads

/-!
# What the exit code says about the station values

An update reads its station values from a file. If everything else is in order, its exit code tells
how far these values get: code 2 for a file that is no list of values, code 6 for values that do not
fit, another code beyond that.

* `Verdict` has one case for each of these ends; `verdict_of_transcribe`: there are no others.
* `exit_code_of_stations` is the result, by the exit code. A file that holds no list has the code of
  a file that is not read, not the code of values that do not fit.
-/

namespace RadarCatalog.Command

open RadarCatalog.Catalog RadarCatalog.Files RadarCatalog.Registry RadarCatalog.Update

/-! ## 1. Updates that depend on their stations -/

/-- The current catalog and the allow-list are accepted, and the stations can be saved. -/
structure OtherwiseFine (s : Settings) (r : UpdateRequest) (d : Disk) : Prop where
  previous : ∃ previous, PreviousIs d r.currentFile previous
  allow : ∃ allow, AllowIs s.sentinel d r.allowFile allow
  snapshot : ∀ stations, StationsAre d r.inputFile stations →
    ∃ d', Saves d r.snapshotFile (snapshotText stations) d'

/-- The catalog is to be read back, and the temporary name of the listing leads to it. -/
def Collides (r : UpdateRequest) (d : Disk) : Prop :=
  r.verify = true ∧ ∃ target listing, r.target = some target ∧ r.coordFile = some listing ∧
    ¬ d.Apart (temporary listing) target

/-- The exit code that an update has by its stations. -/
inductive Verdict (s : Settings) (r : UpdateRequest) (d : Disk) : Nat → Prop where
  | target (absent : r.target = none) : Verdict s r d 2
  | unread {target : String} (given : r.target = some target)
      (unread : ∀ stations, ¬ StationsAre d r.inputFile stations) : Verdict s r d 2
  | unfit {target : String} {stations : List Json.Value} (given : r.target = some target)
      (read : StationsAre d r.inputFile stations) (unfit : Unfit s.policy stations) :
      Verdict s r d 6
  | beyond {code : Nat} {target : String} {stations : List Json.Value}
      (given : r.target = some target) (read : StationsAre d r.inputFile stations)
      (fit : ¬ Unfit s.policy stations)
      (later : code = 0 ∨ code = 1 ∨ code = 4 ∨ code = 2 ∧ Collides r d) : Verdict s r d code

section Stations

variable {s : Settings} {r : UpdateRequest} {d : Disk} {path : String}
  (hinput : r.inputFile = some path)
include hinput

theorem stationsAre_input {stations : List Json.Value} : StationsAre d r.inputFile stations ↔
    ∃ text, d.read path = .ok (.text text) ∧ readSnapshot text = .ok stations := by
  rw [hinput]
  rfl

/-- No stations come from a file that is not read, or holds no list. -/
theorem not_stationsAre_iff : (∀ stations, ¬ StationsAre d r.inputFile stations) ↔
    (∀ text, d.read path ≠ .ok (.text text)) ∨
      ∃ text, d.read path = .ok (.text text) ∧ NoList text := by
  simp only [stationsAre_input hinput]
  constructor
  · intro h
    by_cases hread : ∃ text, d.read path = .ok (.text text)
    · obtain ⟨text, htext⟩ := hread
      right
      refine ⟨text, htext, ?_⟩
      cases hsnapshot : readSnapshot text with
      | error e => exact ⟨e, hsnapshot⟩
      | ok stations => exact absurd ⟨text, htext, hsnapshot⟩ (h stations)
    · exact .inl fun text htext => hread ⟨text, htext⟩
  · rintro (hnot | ⟨text, htext, e, he⟩) stations ⟨text', htext', hsnapshot⟩
    · exact hnot text' htext'
    · rw [htext] at htext'
      cases htext'
      rw [he] at hsnapshot
      cases hsnapshot

end Stations

/-! ## 2. The ends of an update -/

section Update

variable {s : Settings} {r : UpdateRequest} {d d' : Disk} {c : Course} {e : Abort}

/-- A catalog that is not there any more was taken for a temporary file. -/
theorem collides_of_unread (hc : c.Listed s r d) (hwanted : r.verify = true)
    (hunread : ∀ text, c.final.read c.target ≠ .ok (.text text)) : Collides r d := by
  have hfinal := hc.final
  have hwritten := hc.written.holds
  cases hcoord : r.coordFile with
  | none =>
    rw [hcoord] at hfinal
    have hsame : c.final = c.written := hfinal
    rw [hsame] at hunread
    exact absurd hwritten.read (hunread _)
  | some listing =>
    rw [hcoord] at hfinal
    refine ⟨hwanted, c.target, listing, hc.target, hcoord, ?_⟩
    intro hapart
    obtain ⟨l, lt, hw, hchanges, hlookup⟩ := Disk.Replaces.lookup?_eq hfinal
    obtain ⟨l', hl', hfile⟩ := Disk.read_eq_ok.1 hwritten.read
    have hbefore := hc.toWrote.changesOnly
    have hne : ¬ lt = l' := by
      rintro rfl
      exact hapart lt (hbefore.locate.1 hw.locate_temporary) (hbefore.locate.1 hl')
    -- whatever stands at the catalog now is a text: its own, or that of the listing
    have hnow := hlookup l'
    rw [if_neg hne, hfile] at hnow
    split at hnow
    · exact hunread _ (Disk.read_eq_ok.2 ⟨l', hchanges.locate.2 hl', hnow⟩)
    · exact hunread _ (Disk.read_eq_ok.2 ⟨l', hchanges.locate.2 hl', hnow⟩)

theorem code_of_unpublished (h : Unpublished s r d e d') :
    e.code = 1 ∨ e.code = 4 ∨ e.code = 2 ∧ Collides r d := by
  cases h with
  | render prepared render =>
    obtain ⟨text, htext⟩ := exists_render (sound_next prepared.inputs).2 r.format
    rw [htext] at render
    cases render
  | catalog prepared unwritten spared => exact .inl (code_unwritten unwritten)
  | coordinates wrote file coordinates => exact .inl rfl
  | listing wrote file unwritten spared => exact .inl (code_unwritten unwritten)
  | reread listed wanted unread => exact .inr (.inr ⟨rfl, collides_of_unread listed wanted unread⟩)
  | verification listed read verify => exact .inr (.inl rfl)

theorem code_of_unread {path : String} (hfine : OtherwiseFine s r d)
    (hinput : r.inputFile = some path) (h : Unread r d e) : e.code = 2 := by
  cases h with
  | file path cause => rfl
  | stations unsupplied =>
    cases unsupplied with
    | search input =>
      rw [hinput] at input
      cases input
    | file path cause => rfl
    | snapshot e => rfl
  | catalog current read parse =>
    obtain ⟨previous, hprevious⟩ := hfine.previous
    rw [current] at hprevious
    obtain ⟨text, c, hread, hparse, _⟩ := hprevious
    rw [read] at hread
    cases hread
    rw [parse] at hparse
    cases hparse

/-- **The code of an update that fails.** -/
theorem verdict_of_fails {path : String} {w w' : World} (hfine : OtherwiseFine s r w.disk)
    (hinput : r.inputFile = some path) (h : Fails (update web s r) w e w') :
    Verdict s r w.disk e.code := by
  have hsome : r.inputFile.isSome = true := Option.isSome_iff_exists.2 ⟨path, hinput⟩
  have hload : Supplies (loadStations web s r) r.inputFile :=
    supplies_loadStations (still_of_input hsome)
  rw [update_eq] at h
  cases htarget : r.updatedFile.or r.currentFile with
  | none =>
    rw [htarget] at h
    obtain ⟨rfl, rfl⟩ := fails_throw.1 h
    exact .target htarget
  | some target =>
    rw [htarget] at h
    rcases fails_bind.1 h with hgather | ⟨i, w₁, hgather, hrest⟩
    · rw [code_of_unread hfine hinput (fails_gatherFrom hload hgather).2]
      refine .unread htarget ?_
      intro stations hstations
      obtain ⟨previous, hprevious⟩ := hfine.previous
      obtain ⟨allow, hallow⟩ := hfine.allow
      have hi : Gathered s r w.disk ⟨previous, allow, stations⟩ :=
        ⟨hprevious, hallow, hstations⟩
      exact ((runs_gather hsome).2 ⟨hi, rfl⟩).not_fails hgather
    obtain ⟨hi, rfl⟩ := (runs_gather hsome).1 hgather
    rcases fails_bind.1 hrest with hsave | ⟨_, w₂, hsave, hrest⟩
    · obtain ⟨d', hd'⟩ := hfine.snapshot _ hi.stations
      have hruns : Runs (saveStations i.stations r.snapshotFile) (w.logged (gatherLog r i)) () _ :=
        runs_saveStations.2 ⟨d', hd', rfl⟩
      exact absurd hsave hruns.not_fails
    obtain ⟨d₁, hd₁, rfl⟩ := runs_saveStations.1 hsave
    rcases fails_bind.1 hrest with hcompute | ⟨next, w₃, hcompute, hpublish⟩
    · have hcode : e.code = 6 := by
        rcases (fails_computeCatalog hcompute).2 with ⟨se, rfl⟩ | ⟨ne, rfl⟩
        · rfl
        · rfl
      rw [hcode]
      refine .unfit htarget hi.stations ?_
      by_contra hfit
      obtain ⟨canonical, hcanonical⟩ := exists_canonicalOf_iff.2 hfit
      exact (runs_computeCatalog.2 ⟨canonical, hcanonical, rfl, rfl⟩).not_fails hcompute
    · obtain ⟨canonical, hcanonical, rfl, rfl⟩ := runs_computeCatalog.1 hcompute
      have hc : Course.Prepared ⟨target, i, canonical, "", "", d₁, d₁, d₁⟩ s r w.disk :=
        ⟨htarget, hi, hd₁, hcanonical⟩
      have hcode := code_of_unpublished (unpublished_of_fails hc rfl hpublish)
      exact .beyond htarget hi.stations (exists_canonicalOf_iff.1 ⟨canonical, hcanonical⟩)
        (.inr hcode)

theorem Course.Of.verdict (hc : c.Of s r d) : Verdict s r d 0 :=
  .beyond hc.target hc.inputs.stations (exists_canonicalOf_iff.1 ⟨_, hc.canonical⟩) (.inl rfl)

end Update

/-! ## 3. By the exit code -/

section Code

variable {s : Settings} {r : UpdateRequest} {d : Disk} {code : Nat}

theorem Verdict.six (h : Verdict s r d code) (hinput : r.inputFile.isSome = true) :
    code = 6 ↔ r.target.isSome = true ∧
      ∃ stations, StationsAre d r.inputFile stations ∧ Unfit s.policy stations := by
  constructor
  · rintro rfl
    cases h with
    | unfit given read unfit => exact ⟨Option.isSome_iff_exists.2 ⟨_, given⟩, _, read, unfit⟩
    | beyond given read fit later =>
      exfalso
      omega
  · rintro ⟨htarget, stations, hstations, hunfit⟩
    cases h with
    | target absent =>
      rw [absent] at htarget
      cases htarget
    | unread given unread => exact absurd hstations (unread _)
    | unfit given read unfit => rfl
    | beyond given read fit later =>
      rw [read.unique rfl hinput hstations] at hunfit
      exact absurd hunfit fit

theorem Verdict.two (h : Verdict s r d code) (hcode : code = 2) :
    r.target = none ∨ (∀ stations, ¬ StationsAre d r.inputFile stations) ∨ Collides r d := by
  cases h with
  | target absent => exact .inl absent
  | unread given unread => exact .inr (.inl unread)
  | unfit given read unfit => cases hcode
  | beyond given read fit later =>
    rcases later with rfl | rfl | rfl | ⟨rfl, hcollides⟩
    · cases hcode
    · cases hcode
    · cases hcode
    · exact .inr (.inr hcollides)

theorem Verdict.eq_two (h : Verdict s r d code)
    (hstop : r.target = none ∨ ∀ stations, ¬ StationsAre d r.inputFile stations) : code = 2 := by
  cases h with
  | target absent => rfl
  | unread given unread => rfl
  | unfit given read unfit =>
    rw [given] at hstop
    exact absurd read (hstop.resolve_left nofun _)
  | beyond given read fit later =>
    rw [given] at hstop
    exact absurd read (hstop.resolve_left nofun _)

end Code

/-! ## 4. The whole program -/

section Run

variable {web : Web (StateM World)} {e : Environment} {c : CommandLine} {r : UpdateRequest}
  {disk : Disk} {s : Settings} {path : String}

theorem verdict_of_transcribe (hr : c.request = .update r) (hinput : r.inputFile = some path)
    (hs : SettingsAre disk e.standardFile c.settingsFile s) (hfine : OtherwiseFine s r disk) :
    Verdict s r disk (transcribeCommand web e c disk).code := by
  have hexecute : execute web e.standardFile c =
      loadSettings e.standardFile c.settingsFile >>= fun s => update web s r := by
    unfold execute
    rw [hr]
  have hsome : r.inputFile.isSome = true := Option.isSome_iff_exists.2 ⟨path, hinput⟩
  have hload : Runs (loadSettings (m := StateM World) e.standardFile c.settingsFile)
      ⟨disk, [], ""⟩ s ⟨disk, [], ""⟩ := runs_loadSettings.2 ⟨hs, rfl⟩
  rcases runs_or_fails (execute web e.standardFile c) ⟨disk, [], ""⟩ with
    ⟨u, w, hrun⟩ | ⟨a, w, hfail⟩
  · rw [transcribeCommand_of_runs hrun]
    rw [hexecute] at hrun
    obtain ⟨s', w₁, hload', hupdate⟩ := runs_bind.1 hrun
    obtain ⟨rfl, rfl⟩ := hload.unique hload'
    obtain ⟨course, hcourse, _⟩ := (runs_update hsome).1 hupdate
    exact hcourse.verdict
  · rw [transcribeCommand_of_fails hfail]
    rw [hexecute] at hfail
    rcases fails_bind.1 hfail with hnot | ⟨s', w₁, hload', hupdate⟩
    · exact absurd hnot hload.not_fails
    · obtain ⟨rfl, rfl⟩ := hload.unique hload'
      exact verdict_of_fails hfine hinput hupdate

/-- **What the exit code says about the station values**, if nothing else is amiss. Code 6 is for
    values that do not fit. Code 2 is for an update without a catalog to write, for a file that is
    not read or holds no list, and for a catalog that is lost to the listing before it is read back.
    So code 6 is for unusable texts in general unless the file holds no list. -/
theorem exit_code_of_stations (hr : c.request = .update r) (hinput : r.inputFile = some path)
    (hs : SettingsAre disk e.standardFile c.settingsFile s) (hfine : OtherwiseFine s r disk) :
    let t := transcribeCommand web e c disk
    (t.code = 6 ↔ r.target.isSome = true ∧ ∃ text stations, disk.read path = .ok (.text text) ∧
        readSnapshot text = .ok stations ∧ Unfit s.policy stations) ∧
      (t.code = 2 → r.target = none ∨ (∀ text, disk.read path ≠ .ok (.text text)) ∨
        (∃ text, disk.read path = .ok (.text text) ∧ NoList text) ∨ Collides r disk) ∧
      (r.target = none ∨ (∀ text, disk.read path ≠ .ok (.text text)) ∨
        (∃ text, disk.read path = .ok (.text text) ∧ NoList text) → t.code = 2) ∧
      (r.target.isSome = true →
        ((t.code = 6 ↔ ∃ text, disk.read path = .ok (.text text) ∧ Unusable s.policy text) ↔
          ¬ ∃ text, disk.read path = .ok (.text text) ∧ NoList text)) := by
  intro t
  have hverdict : Verdict s r disk t.code := verdict_of_transcribe hr hinput hs hfine
  have hsix : t.code = 6 ↔ r.target.isSome = true ∧ ∃ text stations,
      disk.read path = .ok (.text text) ∧ readSnapshot text = .ok stations ∧
        Unfit s.policy stations := by
    rw [hverdict.six (Option.isSome_iff_exists.2 ⟨path, hinput⟩)]
    simp only [stationsAre_input hinput]
    constructor
    · rintro ⟨htarget, stations, ⟨text, htext, hread⟩, hunfit⟩
      exact ⟨htarget, text, stations, htext, hread, hunfit⟩
    · rintro ⟨htarget, text, stations, htext, hread, hunfit⟩
      exact ⟨htarget, stations, ⟨text, htext, hread⟩, hunfit⟩
  refine ⟨hsix, ?_, ?_, ?_⟩
  · intro hcode
    have hcases := hverdict.two hcode
    rw [not_stationsAre_iff hinput, or_assoc] at hcases
    exact hcases
  · intro hstop
    refine hverdict.eq_two ?_
    rw [not_stationsAre_iff hinput]
    exact hstop
  · intro htarget
    rw [hsix]
    constructor
    · rintro hiff ⟨text, htext, e, he⟩
      obtain ⟨_, text', stations, htext', hread, _⟩ := hiff.2 ⟨text, htext, .noList ⟨e, he⟩⟩
      rw [htext] at htext'
      cases htext'
      rw [he] at hread
      cases hread
    · intro hlist
      constructor
      · rintro ⟨_, text, stations, htext, hread, hunfit⟩
        exact ⟨text, htext, .unfit hread hunfit⟩
      · rintro ⟨text, htext, hunusable⟩
        cases hunusable with
        | noList h => exact absurd ⟨text, htext, h⟩ hlist
        | unfit read h => exact ⟨htarget, text, _, htext, read, h⟩

end Run

/-! ## 5. A station that does not fit, and a text that is no list -/

/-- A fresh catalog from the snapshot. -/
def freshRequest : UpdateRequest :=
  { exampleRequest with currentFile := none, updatedFile := some "fresh", verify := false }

def freshLine : CommandLine := lineOf (.update freshRequest)

theorem settingsAre_snapshotDisk (text : String) :
    SettingsAre (snapshotDisk text) exampleEnvironment.standardFile none .standard := by
  apply settingsAre_standard
  rfl

theorem otherwiseFine_snapshotDisk (text : String) :
    OtherwiseFine .standard freshRequest (snapshotDisk text) where
  previous := ⟨none, rfl⟩
  allow := ⟨none, rfl⟩
  snapshot := fun _ _ => ⟨_, rfl⟩

/-- A station that is null has code 6. -/
theorem exit_code_of_stations_example :
    (snapshotDisk "[null]").read "stations" = .ok (.text "[null]") ∧
      (transcribeCommand .absent exampleEnvironment freshLine (snapshotDisk "[null]")).code = 6 := by
  have hread : (snapshotDisk "[null]").read "stations" = .ok (.text "[null]") := by decide
  have hdecoded : (readSnapshot "[null]").toOption.map decodeStations =
      some (.error ⟨0, .wrongKind (.scalar .null) "struct HomrStation"⟩) := by decide +kernel
  obtain ⟨stations, hlist, hdecode⟩ := Option.map_eq_some_iff.1 hdecoded
  have hunfit : Unfit Settings.standard.policy stations := by
    by_contra hfit
    obtain ⟨canonical, hcanonical⟩ := exists_canonicalOf_iff.2 hfit
    obtain ⟨reports, hreports, _⟩ := canonicalOf_eq_ok.1 hcanonical
    rw [hdecode] at hreports
    cases hreports
  obtain ⟨hsix, _⟩ := @exit_code_of_stations .absent exampleEnvironment freshLine
    freshRequest (snapshotDisk "[null]") .standard "stations" rfl rfl
    (settingsAre_snapshotDisk "[null]") (otherwiseFine_snapshotDisk "[null]")
  exact ⟨hread, hsix.2 ⟨rfl, _, _, hread, toOption_eq_some.1 hlist, hunfit⟩⟩

/-- **A text that is no list has code 2**, though no stations come from it and nothing else is
    amiss. -/
theorem no_list_code :
    let t := transcribeCommand .absent exampleEnvironment freshLine (snapshotDisk "[")
    t.code = 2 ∧ (snapshotDisk "[").read "stations" = .ok (.text "[") ∧
      Unusable Settings.standard.policy "[" ∧
      ¬ ∀ (web : Web (StateM World)) (e : Environment) (c : CommandLine) (r : UpdateRequest)
          (disk : Disk) (s : Settings) (path : String),
        c.request = .update r → r.inputFile = some path →
        SettingsAre disk e.standardFile c.settingsFile s → OtherwiseFine s r disk →
          r.target.isSome = true →
          ((transcribeCommand web e c disk).code = 6 ↔
            ∃ text, disk.read path = .ok (.text text) ∧ Unusable s.policy text) := by
  intro t
  have hcode : t.code = 2 := by decide +kernel
  have hread : (snapshotDisk "[").read "stations" = .ok (.text "[") := by decide
  have hunread : (readSnapshot "[").toOption.isNone = true := by decide +kernel
  have hunusable : Unusable Settings.standard.policy "[" := by
    cases hlist : readSnapshot "[" with
    | error e => exact .noList ⟨e, hlist⟩
    | ok stations =>
      rw [hlist] at hunread
      cases hunread
  refine ⟨hcode, hread, hunusable, ?_⟩
  intro hclaim
  have hsix := (hclaim .absent exampleEnvironment freshLine freshRequest (snapshotDisk "[") .standard
    "stations" rfl rfl (settingsAre_snapshotDisk "[") (otherwiseFine_snapshotDisk "[") rfl).2
    ⟨"[", hread, hunusable⟩
  have hcode' : t.code = 6 := hsix
  omega

end RadarCatalog.Command
