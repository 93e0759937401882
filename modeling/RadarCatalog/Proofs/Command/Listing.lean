import RadarCatalog.Proofs.Command.Courses

/-!
# Two ways to the coordinate listing

An update writes the listing of the catalog that it has in memory. The command `coords` reads the
catalog back from its file and lists that one.

* `runs_coords`, `fails_coords`: what `coords` does with a catalog that is there;
* `listing_agrees`: run after an update with the same settings, it prints what the update wrote, or
  fails at the same record.
-/

namespace RadarCatalog.Command

open RadarCatalog.Catalog RadarCatalog.Files RadarCatalog.Registry RadarCatalog.Update

variable {web : Web (StateM World)}

/-! ## 1. The command `coords` -/

/-- The disk holds this catalog in the file. -/
def CatalogIs (d : Disk) (path : String) (c : Catalog) : Prop :=
  ∃ text, d.read path = .ok (.text text) ∧ Catalog.parse text = .ok c

section Coords

variable {path : String} {catalog : Catalog} {w : World} (h : CatalogIs w.disk path catalog)
include h

/-- A catalog that has a listing is listed. -/
theorem runs_coords {listing : String} (hlisting : catalog.coordinates = .ok listing) :
    Runs (coords (m := StateM World) ⟨path, none⟩) w ()
      { w with printed := w.printed ++ listing } := by
  have hread : Runs (readCatalog (m := StateM World) path) w catalog w :=
    runs_readCatalog.2 ⟨h, rfl⟩
  have hcheck : Runs (check (m := StateM World) (fun e => .update (.coordinate e))
      catalog.coordinates) w listing w := runs_check.2 ⟨hlisting, rfl⟩
  have hprint : Runs (ExceptT.lift (Host.print (m := StateM World) listing)) w (.ok ())
      { w with printed := w.printed ++ listing } := rfl
  unfold coords
  exact runs_bind.2 ⟨catalog, w, hread, runs_bind.2 ⟨listing, w, hcheck,
    runs_bind.2 ⟨_, _, hprint, runs_pure.2 ⟨rfl, rfl⟩⟩⟩⟩

/-- A catalog that has none is not, for the reason that it has none. -/
theorem fails_coords {e : CoordinateError} (hlisting : catalog.coordinates = .error e) :
    Fails (coords (m := StateM World) ⟨path, none⟩) w (.update (.coordinate e)) w := by
  have hread : Runs (readCatalog (m := StateM World) path) w catalog w :=
    runs_readCatalog.2 ⟨h, rfl⟩
  have hcheck : Fails (check (m := StateM World) (fun e => .update (.coordinate e))
      catalog.coordinates) w (.update (.coordinate e)) w := fails_check.2 ⟨e, hlisting, rfl, rfl⟩
  unfold coords
  exact fails_bind.2 (.inr ⟨catalog, w, hread, fails_bind.2 (.inl hcheck)⟩)

end Coords

section Run

variable {e : Environment} {c : CommandLine} {path : String} {s : Settings} {catalog : Catalog}
  {d : Disk} (hc : c.request = .coords ⟨path, none⟩)
  (hs : SettingsAre d e.standardFile c.settingsFile s) (h : CatalogIs d path catalog)
include hc hs h

/-- **A run of `coords`** prints the listing of the catalog. -/
theorem transcribe_coords {listing : String} (hlisting : catalog.coordinates = .ok listing) :
    (transcribeCommand web e c d).code = 0 ∧ (transcribeCommand web e c d).output = listing := by
  have hload : Runs (loadSettings (m := StateM World) e.standardFile c.settingsFile) ⟨d, [], ""⟩ s
      ⟨d, [], ""⟩ := runs_loadSettings.2 ⟨hs, rfl⟩
  have hrun : Runs (execute web e.standardFile c) ⟨d, [], ""⟩ ()
      ⟨d, [], "" ++ listing⟩ := by
    unfold execute
    simp only [hc]
    exact runs_bind.2 ⟨s, _, hload, runs_coords h hlisting⟩
  rw [transcribeCommand_of_runs hrun]
  exact ⟨rfl, String.empty_append⟩

/-- **A run of `coords` fails** at the first record without a listing. -/
theorem ending_coords {ce : CoordinateError} (hlisting : catalog.coordinates = .error ce) :
    ending web e c d = .error (.update (.coordinate ce)) := by
  have hload : Runs (loadSettings (m := StateM World) e.standardFile c.settingsFile) ⟨d, [], ""⟩ s
      ⟨d, [], ""⟩ := runs_loadSettings.2 ⟨hs, rfl⟩
  refine ending_eq_error.2 ⟨⟨d, [], ""⟩, ?_⟩
  unfold execute
  simp only [hc]
  exact fails_bind.2 (.inr ⟨s, _, hload, fails_coords h hlisting⟩)

end Run

/-! ## 2. After an update -/

/-- An update that fails for its listing has written the catalog, and nothing behind it. -/
theorem wrote_of_coordinate {s : Settings} {r : UpdateRequest} {d d' : Disk} {e : CoordinateError}
    (h : Stops s r d (.update (.coordinate e)) d') : ∃ c : Course, c.Wrote s r d ∧
      (c.next s).coordinates = .error e ∧ d' = c.written := by
  cases h with
  | inputs unread =>
    cases unread with
    | stations unsupplied => cases unsupplied
  | snapshot file unwritten spared => obtain ⟨_, _, ⟨⟩, _⟩ := unwritten
  | stations inputs saved failure => rcases failure with ⟨_, hf⟩ | ⟨_, hf⟩ <;> cases hf
  | catalog prepared unwritten spared => obtain ⟨_, _, ⟨⟩, _⟩ := unwritten
  | coordinates wrote file coordinates => exact ⟨_, wrote, coordinates, rfl⟩
  | listing wrote file unwritten spared => obtain ⟨_, _, ⟨⟩, _⟩ := unwritten

section Agreement

variable {e : Environment} {c c' : CommandLine} {r : UpdateRequest} {s : Settings} {course : Course}
  {disk : Disk}

/-- The settings are there after an update that writes other files. -/
theorem settingsAre_after {target : String}
    (hapart : (writtenFiles r target ++ [c.settingsFile.getD e.standardFile]).Pairwise disk.Apart)
    (hsettings : c'.settingsFile = c.settingsFile) {d : Disk}
    (hchanges : Disk.ChangesOnly (writtenFiles r target) disk d)
    (hs : SettingsAre disk e.standardFile c.settingsFile s) :
    SettingsAre d e.standardFile c'.settingsFile s := by
  obtain ⟨_, _, hothers⟩ := List.pairwise_append.1 hapart
  rw [hsettings]
  refine hs.of_changesOnly hchanges ?_
  intro p hp
  exact (hothers p hp _ List.mem_cons_self).symm

section After

variable (hs : SettingsAre disk e.standardFile c.settingsFile s)
  (hapart : (writtenFiles r course.target ++ [c.settingsFile.getD e.standardFile]).Pairwise
    disk.Apart)
  (hr' : c'.request = .coords ⟨course.target, none⟩) (hsettings : c'.settingsFile = c.settingsFile)
include hs hapart hr' hsettings

/-- After a whole course, `coords` prints the listing of the course. -/
theorem coords_after_course (hcourse : course.Of s r disk) {listing : String}
    (hlisting : r.coordFile = some listing) :
    (transcribeCommand web e c' course.final).code = 0 ∧
      course.final.read listing =
        .ok (.text (transcribeCommand web e c' course.final).output) := by
  have hs' := settingsAre_after hapart hsettings hcourse.changesOnly hs
  have hcatalog : CatalogIs course.final course.target (course.next s) :=
    ⟨course.text, (hcourse.holds (List.pairwise_append.1 hapart).1).read,
      parse_text hcourse.toWrote⟩
  have hfile : course.final.Holds listing course.listing :=
    holdsIn_of_saves hcourse.final listing hlisting
  have hcoordinates := hcourse.listed (Option.isSome_iff_exists.2 ⟨listing, hlisting⟩)
  obtain ⟨hcode, houtput⟩ := transcribe_coords hr' hs' hcatalog hcoordinates
  rw [houtput]
  exact ⟨hcode, hfile.read⟩

/-- With a catalog that is written but has no listing, `coords` fails. -/
theorem coords_after_written (hcourse : course.Wrote s r disk) {ce : CoordinateError}
    (hcoordinates : (course.next s).coordinates = .error ce) :
    ending web e c' course.written = .error (.update (.coordinate ce)) := by
  have hs' := settingsAre_after hapart hsettings hcourse.changesOnly_files hs
  have hcatalog : CatalogIs course.written course.target (course.next s) :=
    ⟨course.text, hcourse.written.holds.read, parse_text hcourse⟩
  exact ending_coords hr' hs' hcatalog hcoordinates

end After

/-- **Both ways to the listing agree.** After an update that succeeds, `coords` on the catalog
    succeeds and prints what stands in the listing; after one that fails because a coordinate is not
    a number, it fails in the same way. -/
theorem listing_agrees {target listing : String} (hr : c.request = .update r)
    (hweb : r.inputFile = none → web.Still) (htarget : r.target = some target)
    (hlisting : r.coordFile = some listing)
    (hapart : (writtenFiles r target ++ [c.settingsFile.getD e.standardFile]).Pairwise disk.Apart)
    (hr' : c'.request = .coords ⟨target, none⟩) (hsettings : c'.settingsFile = c.settingsFile) :
    let first := transcribeCommand web e c disk
    let second := transcribeCommand web e c' first.disk
    (first.code = 0 →
      second.code = 0 ∧ first.disk.read listing = .ok (.text second.output)) ∧
    ∀ ce : CoordinateError, ending web e c disk = .error (.update (.coordinate ce)) →
      ending web e c' first.disk = .error (.update (.coordinate ce)) ∧ second.code = first.code := by
  intro first second
  constructor
  · intro hcode
    obtain ⟨w, hrun⟩ := code_eq_zero.1 hcode
    obtain ⟨s, hs, hupdate⟩ := (runs_execute hr).1 hrun
    obtain ⟨course, _, _, hcourse, hfinal⟩ := course_of_runs (supplies_loadStations hweb) hupdate
    obtain rfl := target_unique hcourse.toPrepared htarget
    have hdisk : course.final = first.disk :=
      hfinal.symm.trans (congrArg Transcript.disk (transcribeCommand_of_runs hrun)).symm
    have hsecond : (transcribeCommand web e c' course.final).code = 0 ∧ course.final.read listing =
        .ok (.text (transcribeCommand web e c' course.final).output) :=
      coords_after_course hs hapart hr' hsettings hcourse hlisting
    rw [hdisk] at hsecond
    exact hsecond
  · intro ce hending
    obtain ⟨w, hfail⟩ := ending_eq_error.1 hending
    rcases fails_execute hr hfail with ⟨_, hcode⟩ | ⟨s, hs, hupdate⟩
    · have hone : (Abort.update (.coordinate ce)).code = 1 := rfl
      omega
    obtain ⟨course, hcourse, hcoordinates, hwritten⟩ :=
      wrote_of_coordinate (stops_of_fails (supplies_loadStations hweb) hupdate)
    obtain rfl := target_unique hcourse.toPrepared htarget
    have hdisk : course.written = first.disk :=
      hwritten.symm.trans (congrArg Transcript.disk (transcribeCommand_of_fails hfail)).symm
    have hsecond : ending web e c' course.written = .error (.update (.coordinate ce)) :=
      coords_after_written hs hapart hr' hsettings hcourse hcoordinates
    rw [hdisk] at hsecond
    exact ⟨hsecond, (code_of_ending hsecond).trans (code_of_ending hending).symm⟩

end Agreement

/-! ## 3. Updates from the registry -/

/-- A catalog in which one latitude is a word. -/
def wordedText : String :=
  "[\x7b\"id\":\"A\",\"type\":\"w\",\"lat\":\"north\",\"lon\":2.5\x7d," ++
    "\x7b\"id\":\"B\",\"type\":\"w\",\"lat\":3.5,\"lon\":4.5\x7d]"

def wordedCatalog : Catalog where
  records :=
    [recordAt "A" (.string "north") (.number (.real (decimal "2.5"))) none,
      recordAt "B" (.number (.real (decimal "3.5"))) (.number (.real (decimal "4.5"))) none]

theorem parse_wordedText : Catalog.parse wordedText = .ok wordedCatalog := by decide +kernel

def wordedDisk : Disk :=
  { exampleDisk with
    entries := (["sites"], .file (.text wordedText)) :: exampleDisk.entries.drop 1 }

theorem settingsAre_worded :
    SettingsAre wordedDisk exampleEnvironment.standardFile none .standard := by
  apply settingsAre_standard
  decide

/-- The update from the registry leaves the word where it is, and fails at it. -/
theorem ending_worded : ending exampleWeb exampleEnvironment (lineOf (.update liveRequest))
    wordedDisk = .error (.update (.coordinate ⟨"A", "lat"⟩)) := by
  have hplace : exampleDisk.lookup? ["sites"] ≠ some .directory := by decide
  have hchanges : Disk.ChangesOnly ["sites"] exampleDisk wordedDisk :=
    Disk.put_changesOnly rfl hplace (.text wordedText)
  obtain ⟨stations, es, canonical, hloads, hcanonical, hcoherent, hstations⟩ := exists_live_example
  let w : World := ⟨wordedDisk, [], ""⟩
  let i : Inputs := ⟨some wordedCatalog, some (.ofList ["B"]), stations⟩
  have hprevious : PreviousIs wordedDisk liveRequest.currentFile i.previous :=
    ⟨_, _, rfl, parse_wordedText, rfl⟩
  have hallow : AllowIs Settings.standard.sentinel wordedDisk liveRequest.allowFile i.allow :=
    ⟨_, rfl, congrArg some parse_other.symm⟩
  have hload : Runs (loadStations exampleWeb .standard liveRequest)
      (w.logged (readLog liveRequest i)) i.stations _ := Loads.runs (hloads _)
  have hgather : Runs (gather exampleWeb .standard liveRequest) w i _ :=
    runs_gatherFrom.2 ⟨hprevious, hallow, hload⟩
  obtain ⟨hgathered, hdisk⟩ :=
    gathered_of_runs (supplies_loadStations fun _ => Web.still_steady _) hgather
  have hlisting : (reconcile Settings.standard.types canonical.stations i.previous
      i.allow).catalog.coordinates = .error ⟨"A", "lat"⟩ := by
    have hmerge : (merge canonical.stations wordedCatalog (some (.ofList ["B"]))).catalog = _ :=
      merge_pair hcoherent hstations _ _ _ _ _ _ _
    simp only [allows_ofList] at hmerge
    show (merge canonical.stations wordedCatalog (some (.ofList ["B"]))).catalog.coordinates = _
    rw [hmerge]
    decide +kernel
  obtain ⟨c, hc, hi, hreduced, _⟩ :=
    exists_wrote (clear_live.of_changesOnly hchanges) hgathered hcanonical
  rw [← hi] at hgather
  rw [← hi, ← hreduced] at hlisting
  obtain ⟨w', hfails, _⟩ := fails_update_of_coordinates hc hgather hdisk rfl hlisting
  exact ending_update rfl settingsAre_worded hfails

/-- An update moves a station and writes the listing, and `coords` prints it. Another one fails at a
    latitude that is a word, and `coords` fails in the same way. -/
theorem listing_agrees_example :
    (let first := transcribeCommand exampleWeb exampleEnvironment (lineOf (.update liveRequest))
        exampleDisk
      let second := transcribeCommand exampleWeb exampleEnvironment
        (lineOf (.coords ⟨"sites", none⟩)) first.disk
      first.code = 0 ∧ second.code = 0 ∧ second.output = "1N 2E\n7.5N 8.5E\n" ∧
        first.disk.read "coords" = .ok (.text "1N 2E\n7.5N 8.5E\n")) ∧
    let first := transcribeCommand exampleWeb exampleEnvironment (lineOf (.update liveRequest))
      wordedDisk
    let second := transcribeCommand exampleWeb exampleEnvironment
      (lineOf (.coords ⟨"sites", none⟩)) first.disk
    first.code = 1 ∧ second.code = 1 ∧
      ending exampleWeb exampleEnvironment (lineOf (.coords ⟨"sites", none⟩)) first.disk =
        .error (.update (.coordinate ⟨"A", "lat"⟩)) := by
  have hapart : (writtenFiles liveRequest "sites" ++ [exampleEnvironment.standardFile]).Pairwise
      exampleDisk.Apart := by decide
  obtain ⟨hagrees, _⟩ := @listing_agrees exampleWeb exampleEnvironment
    (lineOf (.update liveRequest)) (lineOf (.coords ⟨"sites", none⟩)) liveRequest exampleDisk "sites"
    "coords" rfl (fun _ => Web.still_steady exampleAnswers) rfl rfl hapart rfl rfl
  obtain ⟨hsecond, hread⟩ := hagrees code_live
  have houtput := Content.text.inj (Except.ok.inj (hread.symm.trans read_live))
  have hapart' : (writtenFiles liveRequest "sites" ++ [exampleEnvironment.standardFile]).Pairwise
      wordedDisk.Apart := by decide
  obtain ⟨_, hfails⟩ := @listing_agrees exampleWeb exampleEnvironment
    (lineOf (.update liveRequest)) (lineOf (.coords ⟨"sites", none⟩)) liveRequest wordedDisk "sites"
    "coords" rfl (fun _ => Web.still_steady exampleAnswers) rfl rfl hapart' rfl rfl
  obtain ⟨hending, hsame⟩ := hfails _ ending_worded
  have hcode := code_of_ending ending_worded
  exact ⟨⟨code_live, hsecond, houtput, read_live⟩, hcode, hsame.trans hcode, hending⟩

end RadarCatalog.Command
