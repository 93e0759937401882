import RadarCatalog.Proofs.Command.Reruns
import RadarCatalog.Proofs.Registry.Reduction
import RadarCatalog.Proofs.Registry.SnapshotRoundTrip

/-!
# Replaying an update from its snapshot

An update that saves its stations can be run once more from the saved file, whether it had the
stations from a file or from the registry: the file is read as the very same stations, so the same
catalog is written.

* `goesBy_of_runs`: a run of `updateFrom` goes by stations that came in;
* `exists_replay`: on the disk that the run left, the replay succeeds and changes no file;
* `text_of_replay`: on any disk with the same inputs, the replay writes the same text;
* `snapshot_replays` is the result, with the round trip of the snapshot itself.
-/

namespace RadarCatalog.Command

open RadarCatalog.Catalog RadarCatalog.Files RadarCatalog.Registry RadarCatalog.Update

/-! ## 1. Stations from anywhere -/

/-- The task brings stations that came in somehow, and leaves the disk alone. A search of the
    registry is such a task, and so is reading a snapshot file. -/
structure Brings (load : Task (StateM World) (List Json.Value)) : Prop where
  still : ∀ {w w' : World} {stations : List Json.Value}, Runs load w stations w' →
    w'.disk = w.disk
  obtained : ∀ {w w' : World} {stations : List Json.Value}, Runs load w stations w' →
    Obtained stations

/-- The stations of an update are brought, if the web leaves the disk alone. -/
theorem brings_loadStations {web : Web (StateM World)} {s : Settings} {r : UpdateRequest}
    (hweb : r.inputFile = none → web.Still) : Brings (loadStations web s r) where
  still := by
    intro w w' stations h
    exact ((supplies_loadStations hweb).runs h).2
  obtained := by
    intro w w' stations h
    exact ((supplies_loadStations hweb).runs h).1.obtained

/-- **A run goes by the stations that were brought.** -/
theorem goesBy_of_runs {load : Task (StateM World) (List Json.Value)} (hload : Brings load)
    {s : Settings} {r : UpdateRequest} {w w' : World} {u : Unit}
    (h : Runs (updateFrom load s r) w u w') :
    ∃ c : Course, c.GoesBy s r w.disk ∧ Obtained c.inputs.stations ∧ w'.disk = c.final := by
  obtain ⟨c, w₁, hgather, htarget, hsaved, hcanonical, hrender, hwritten, hlisting, hfinal, _, rfl⟩ :=
    runs_updateFrom.1 h
  obtain ⟨hprevious, hallow, hstations⟩ := runs_gatherFrom.1 hgather
  have hdisk := hload.still hstations
  rw [hdisk] at hsaved
  exact ⟨c, ⟨htarget, hprevious, hallow, hsaved, hcanonical, hrender, hwritten, hlisting, hfinal⟩,
    hload.obtained hstations, rfl⟩

/-! ## 2. The disk that a run leaves -/

/-- The first path name leads where the second one leads, if it leads anywhere. -/
def LeadsAlike (d : Disk) (p q : String) : Prop := ∀ l, d.locate p = .ok l → d.locate q = .ok l

/-- An update reads none of the files that it writes, but that its current file may be the one that
    the catalog is written to. -/
structure InputsApart (r : UpdateRequest) (target : String) (d : Disk) : Prop where
  allow : ∀ p ∈ r.allowFile.toList, ∀ q ∈ writtenFiles r target, d.Apart p q
  current : ∀ p ∈ r.currentFile.toList,
    LeadsAlike d p target ∨ ∀ q ∈ writtenFiles r target, d.Apart p q

/-- The second request is the first one with the saved snapshot for an input. It may leave out the
    snapshot and the listing. -/
structure Replays (r : UpdateRequest) (snapshot : String) (r' : UpdateRequest) : Prop where
  inputFile : r'.inputFile = some snapshot
  currentFile : r'.currentFile = r.currentFile
  updatedFile : r'.updatedFile = r.updatedFile
  allowFile : r'.allowFile = r.allowFile
  plain : r'.plain = r.plain
  snapshotFile : r'.snapshotFile = none ∨ r'.snapshotFile = some snapshot
  coordFile : r'.coordFile = none ∨ r'.coordFile = r.coordFile

section Replay

variable {s : Settings} {r : UpdateRequest} {d : Disk} {c : Course} {snapshot : String}

/-- **What is in the current file afterwards** is reconciled to the same catalog: it is what was
    there before, or it is this catalog. -/
theorem exists_previous_after (hc : c.GoesBy s r d)
    (hwritten : (writtenFiles r c.target).Pairwise d.Apart) (hinputs : InputsApart r c.target d) :
    ∃ previous, PreviousIs c.final r.currentFile previous ∧
      (reconcile s.types c.canonical.stations previous c.inputs.allow).catalog = c.next s := by
  cases hcurrent : r.currentFile with
  | none =>
    have hprevious := hc.previous
    rw [hcurrent] at hprevious
    exact ⟨c.inputs.previous, hprevious, rfl⟩
  | some path =>
    have hprevious := hc.previous
    rw [hcurrent] at hprevious
    rcases hinputs.current path (Option.mem_toList.2 hcurrent) with halike | hkept
    · obtain ⟨text, previous, hread, _, hbefore⟩ := hprevious
      obtain ⟨l, hl, _⟩ := Disk.read_eq_ok.1 hread
      have hcatalog := hc.holds_catalog (listing_apart hwritten)
      obtain ⟨l', hl', hfile⟩ := Disk.read_eq_ok.1 hcatalog.read
      rw [hc.changesOnly.locate.2 (halike l hl)] at hl'
      cases hl'
      have hread' : c.final.read path = .ok (.text c.text) :=
        Disk.read_eq_ok.2 ⟨l, hc.changesOnly.locate.2 hl, hfile⟩
      have hparse := parse_render (sound_of_previous hc.previous).1 hc.rendered
      exact ⟨some (c.next s), ⟨c.text, c.next s, hread', hparse, rfl⟩,
        congrArg Reconciled.catalog (reconcile_next hbefore)⟩
    · refine ⟨c.inputs.previous, hprevious.of_changesOnly hc.changesOnly ?_, rfl⟩
      intro p hp
      obtain rfl : p = path := by simpa using hp
      exact hkept

/-- The snapshot that was saved holds the stations. -/
theorem stationsAre_saved (hc : c.GoesBy s r d) (hobtained : Obtained c.inputs.stations)
    (hsnapshot : r.snapshotFile = some snapshot)
    (hwritten : (writtenFiles r c.target).Pairwise d.Apart) :
    StationsAre c.final (some snapshot) c.inputs.stations :=
  ⟨_, (hc.holdsIn_snapshot hwritten snapshot hsnapshot).read,
    readSnapshot_snapshotText hobtained.storable⟩

/-- **The replay on the disk that was left** succeeds and changes no file. -/
theorem exists_replay (hc : c.GoesBy s r d) (hobtained : Obtained c.inputs.stations)
    (hsnapshot : r.snapshotFile = some snapshot)
    (hwritten : (writtenFiles r c.target).Pairwise d.Apart) (hinputs : InputsApart r c.target d)
    {r' : UpdateRequest} (hr' : Replays r snapshot r') :
    ∃ c' : Course, c'.Of s r' c.final ∧ Disk.SameFiles c.final c'.final := by
  obtain ⟨previous, hprevious, hnext⟩ := exists_previous_after hc hwritten hinputs
  have hallow := hc.allow.of_changesOnly hc.changesOnly hinputs.allow
  have hstations := stationsAre_saved hc hobtained hsnapshot hwritten
  let i : Inputs := ⟨previous, c.inputs.allow, c.inputs.stations⟩
  have hnext : Course.next { c with inputs := i } s = c.next s := hnext
  have hsettled : Course.Settled { c with inputs := i } s r' c.final :=
    { target := by
        rw [hr'.updatedFile, hr'.currentFile]
        exact hc.target
      inputs :=
        ⟨hr'.currentFile ▸ hprevious, hr'.allowFile ▸ hallow, hr'.inputFile ▸ hstations⟩
      canonical := hc.canonical
      rendered := by
        rw [hnext, UpdateRequest.format, hr'.plain, ← UpdateRequest.format]
        exact hc.rendered
      listed := by
        intro hsome
        rw [hnext]
        rcases hr'.coordFile with hnone | hsame
        · rw [hnone] at hsome
          cases hsome
        · exact hc.listed (hsame ▸ hsome)
      snapshot := by
        refine (hc.holdsIn_snapshot hwritten).of_file ?_
        rw [hsnapshot]
        exact hr'.snapshotFile
      catalog := hc.holds_catalog (listing_apart hwritten)
      listing := (holdsIn_of_saves hc.final).of_file hr'.coordFile }
  obtain ⟨d₁, d₂, d₃, hcourse, hsame⟩ := hsettled.exists_course
  exact ⟨_, hcourse, hsame⟩

end Replay

/-! ## 3. Replays elsewhere -/

/-- The requests read the same catalog and the same allow-list on their disks, or none, and ask for
    the same layout. -/
structure SameInputs (r : UpdateRequest) (d : Disk) (r' : UpdateRequest) (d' : Disk) : Prop where
  current : r'.currentFile.map d'.read = r.currentFile.map d.read
  allow : r'.allowFile.map d'.read = r.allowFile.map d.read
  plain : r'.plain = r.plain

/-- **Courses with the same inputs** write the same text. -/
theorem text_of_replay {s : Settings} {r r' : UpdateRequest} {d d' : Disk} {c c' : Course}
    (hc : c.GoesBy s r d) (hc' : c'.GoesBy s r' d') (hsame : SameInputs r d r' d')
    (hstations : c'.inputs.stations = c.inputs.stations) : c'.text = c.text := by
  have hprevious := PreviousIs.unique hsame.current hc.previous hc'.previous
  have hallow := AllowIs.unique hsame.allow hc.allow hc'.allow
  have hcanonical := hc'.canonical
  rw [hstations, hc.canonical] at hcanonical
  have hcanonical : c.canonical = c'.canonical := Except.ok.inj hcanonical
  have hnext : c'.next s = c.next s := by
    simp only [Course.next, Course.reconciled, hprevious, hallow, hcanonical]
  have hformat : r'.format = r.format := by
    rw [UpdateRequest.format, hsame.plain, ← UpdateRequest.format]
  have hrendered := hc'.rendered
  rw [hnext, hformat, hc.rendered] at hrendered
  exact (Except.ok.inj hrendered).symm

/-! ## 4. The result -/

/-- The run from one world to the other is replayed from its snapshot. On the disk that it left the
    replay succeeds and every file stays, if the run did not write to its own inputs; on any disk on
    which the snapshot and the inputs are the same a replay that succeeds leaves the same catalog. -/
structure Replayed (s : Settings) (r : UpdateRequest) (snapshot target : String) (w w' : World) :
    Prop where
  catalog : ∃ text, w'.disk.read target = .ok (.text text)
  here : InputsApart r target w.disk → ∀ (web : Web (StateM World)) (r' : UpdateRequest)
    (v : World), Replays r snapshot r' → v.disk = w'.disk →
      ∃ v', Runs (update web s r') v () v' ∧ ∀ path, v'.disk.read path = w'.disk.read path
  elsewhere : ∀ (web : Web (StateM World)) (r' : UpdateRequest) (target' input : String)
    (v v' : World),
    r'.updatedFile.or r'.currentFile = some target' → r'.inputFile = some input →
    v.disk.read input = w'.disk.read snapshot → SameInputs r w.disk r' v.disk →
    (∀ p ∈ ownFiles (some target'), ∀ q ∈ ownFiles r'.coordFile, v.disk.Apart p q) →
    Runs (update web s r') v () v' → v'.disk.read target' = w'.disk.read target

theorem replayed_of_goesBy {s : Settings} {r : UpdateRequest} {snapshot : String} {w w' : World}
    {c : Course} (hc : c.GoesBy s r w.disk) (hobtained : Obtained c.inputs.stations)
    (hfinal : w'.disk = c.final) (hsnapshot : r.snapshotFile = some snapshot)
    (hwritten : (writtenFiles r c.target).Pairwise w.disk.Apart) :
    Replayed s r snapshot c.target w w' where
  catalog := by
    rw [hfinal]
    exact ⟨c.text, (hc.holds_catalog (listing_apart hwritten)).read⟩
  here := by
    intro hinputs web r' v hr' hv
    obtain ⟨c', hc', hsame⟩ := exists_replay hc hobtained hsnapshot hwritten hinputs hr'
    rw [← hfinal, ← hv] at hc'
    have hinput : r'.inputFile.isSome = true := Option.isSome_iff_exists.2 ⟨snapshot, hr'.inputFile⟩
    refine ⟨_, (runs_update hinput).2 ⟨c', hc', rfl⟩, ?_⟩
    intro path
    rw [hfinal]
    exact hsame.read path
  elsewhere := by
    intro web r' target' input v v' htarget hinput hread hsame hlisting hrun
    have hsome : r'.inputFile.isSome = true := Option.isSome_iff_exists.2 ⟨input, hinput⟩
    obtain ⟨c', hc', rfl⟩ := (runs_update hsome).1 hrun
    have hgoes := hc'.toListed.goesBy
    obtain rfl : c'.target = target' := Option.some.inj (hc'.target.symm.trans htarget)
    have hsaved := stationsAre_saved hc hobtained hsnapshot hwritten
    have hsource : r'.inputFile.map v.disk.read = (some snapshot).map c.final.read := by
      rw [hinput, ← hfinal]
      exact congrArg some hread
    have hstations := StationsAre.unique hsource rfl hsaved hc'.inputs.stations
    have hcatalog := hc.holds_catalog (listing_apart hwritten)
    have hcatalog' := hgoes.holds_catalog hlisting
    rw [text_of_replay hc hgoes hsame hstations] at hcatalog'
    show c'.final.read c'.target = _
    rw [hfinal, hcatalog.read, hcatalog'.read]

/-- **A saved snapshot replays.** Stations that came in, however they did, are read back from their
    snapshot just as they are, and decode alike; and an update that saves them is replayed from the
    file, if the files that it writes are different ones. -/
theorem snapshot_replays :
    (∀ stations, Obtained stations →
        readSnapshot (snapshotText stations) = .ok stations ∧
          ∀ again, readSnapshot (snapshotText stations) = .ok again →
            snapshotText again = snapshotText stations ∧
              decodeStations again = decodeStations stations) ∧
      ∀ (load : Task (StateM World) (List Json.Value)) (s : Settings) (r : UpdateRequest)
        (snapshot target : String) (w w' : World), Brings load →
        r.snapshotFile = some snapshot → r.updatedFile.or r.currentFile = some target →
        (writtenFiles r target).Pairwise w.disk.Apart → Runs (updateFrom load s r) w () w' →
        Replayed s r snapshot target w w' := by
  constructor
  · intro stations hobtained
    have hread := readSnapshot_snapshotText hobtained.storable
    refine ⟨hread, ?_⟩
    intro again hagain
    rw [hread] at hagain
    cases hagain
    exact ⟨rfl, rfl⟩
  · intro load s r snapshot target w w' hload hsnapshot htarget hwritten hrun
    obtain ⟨c, hc, hobtained, hfinal⟩ := goesBy_of_runs hload hrun
    obtain rfl : c.target = target := Option.some.inj (hc.target.symm.trans htarget)
    exact replayed_of_goesBy hc hobtained hfinal hsnapshot hwritten

/-! ## 5. An update from the registry that saves its stations -/

/-- The update from the stations that it saved. -/
def replayRequest : UpdateRequest :=
  { liveRequest with inputFile := some "saved", snapshotFile := none }

/-- The update from the registry and its replay: the catalog stays as the update left it. -/
theorem snapshot_replays_example : ∃ w w',
    Runs (update exampleWeb .standard liveRequest) ⟨exampleDisk, [], ""⟩ () w ∧
      Runs (update .absent .standard replayRequest) w () w' ∧
      w'.disk.read "sites" = w.disk.read "sites" ∧
      ∃ stations, readSnapshot exampleSnapshot = .ok stations ∧
        readSnapshot (snapshotText stations) = .ok stations := by
  obtain ⟨stations, _, hread, _⟩ := exists_canonical_example
  obtain ⟨c, w, _, hgone, _⟩ := exists_live_course
  have hinputs : InputsApart liveRequest "sites" exampleDisk := by
    refine ⟨by decide, ?_⟩
    intro p hp
    obtain rfl : p = "sites" := List.mem_singleton.1 hp
    exact .inl fun _ h => h
  have hreplayed := snapshot_replays.2 (loadStations exampleWeb .standard liveRequest) .standard
    liveRequest "saved" "sites" ⟨exampleDisk, [], ""⟩ w
    (brings_loadStations fun _ => Web.still_steady exampleAnswers) rfl rfl clear_live.apart hgone.runs
  have hreplay : Replays liveRequest "saved" replayRequest :=
    ⟨rfl, rfl, rfl, rfl, rfl, .inl rfl, .inr rfl⟩
  obtain ⟨w', hrun', hsame⟩ := hreplayed.here hinputs .absent replayRequest w hreplay rfl
  exact ⟨w, w', hgone.runs, hrun', hsame "sites", stations, hread,
    (snapshot_replays.1 stations (.snapshot hread)).1⟩

end RadarCatalog.Command
