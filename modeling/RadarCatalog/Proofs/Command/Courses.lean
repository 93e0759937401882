import RadarCatalog.Proofs.Catalog.MergePolicy
import RadarCatalog.Proofs.Command.CatalogFile
import RadarCatalog.Proofs.Command.Execution
import RadarCatalog.Proofs.Registry.Payloads

/-!
# The courses of an update

What stays as it is along a course, and when there is one.

* The files of an update are the ones that it reads (`inputFiles`) and the ones that it writes
  (`resultFiles`, and `writtenFiles` with the temporary names). What is written to one of them stays
  when the others are written, if they are different ones.
* `exists_course`: an update whose inputs can be used has a course, if its files are different ones
  that can be written and the next catalog has a listing where one is wanted.
* `exists_run` is the same for the program, wherever it has its stations from. Its examples are an
  update that moves one of two stations and raises the other, and one that has the stations from the
  registry.
-/

namespace RadarCatalog.Command

open RadarCatalog.Catalog RadarCatalog.Files RadarCatalog.Registry RadarCatalog.Update

/-! ## 1. Files that hold what is written to them -/

/-- The file has the text, if one is named. -/
def HoldsIn (d : Disk) (file : Option String) (text : String) : Prop :=
  ∀ path, file = some path → d.Holds path text

theorem holdsIn_of_saves {d d' : Disk} {file : Option String} {text : String}
    (h : Saves d file text d') : HoldsIn d' file text := by
  rintro path rfl
  exact Disk.Replaces.holds h

theorem HoldsIn.of_changesOnly {d d' : Disk} {file : Option String} {text : String}
    {paths : List String} (h : HoldsIn d file text) (hc : Disk.ChangesOnly paths d d')
    (hapart : ∀ p ∈ ownFiles file, ∀ q ∈ paths, d.Apart p q) : HoldsIn d' file text := by
  rintro path rfl
  refine (h path rfl).of_changesOnly hc ?_
  intro q hq
  exact ⟨hapart path (List.mem_cons_of_mem _ List.mem_cons_self) q hq,
    hapart (temporary path) List.mem_cons_self q hq⟩

theorem HoldsIn.of_sameFiles {d d' : Disk} {file : Option String} {text : String}
    (h : HoldsIn d file text) (hs : Disk.SameFiles d d') : HoldsIn d' file text :=
  fun path hpath => (h path hpath).of_sameFiles hs

/-- A file that is not named holds what is asked of it. -/
theorem HoldsIn.of_file {d : Disk} {file file' : Option String} {text : String}
    (h : HoldsIn d file text) (hfile : file' = none ∨ file' = file) : HoldsIn d file' text := by
  intro path hpath
  rcases hfile with rfl | rfl
  · cases hpath
  · exact h path hpath

/-- A text that is there already is saved without a trace. -/
theorem HoldsIn.saves {d : Disk} {file : Option String} {text : String} (h : HoldsIn d file text) :
    ∃ d', Saves d file text d' ∧ Disk.SameFiles d d' := by
  cases file with
  | none => exact ⟨d, rfl, rfl, fun _ => rfl⟩
  | some path => exact (h path rfl).replaces

/-! ## 2. Inputs that are not written -/

/-- The files that an update reads besides the catalog. -/
def inputFiles (r : UpdateRequest) : List String := r.inputFile.toList ++ r.allowFile.toList

theorem StationsAre.of_changesOnly {d d' : Disk} {paths : List String}
    (hc : Disk.ChangesOnly paths d d') {file : Option String}
    (hapart : ∀ p ∈ file.toList, ∀ q ∈ paths, d.Apart p q) {stations : List Json.Value}
    (h : StationsAre d file stations) : StationsAre d' file stations := by
  cases file with
  | none => exact h
  | some path =>
    obtain ⟨text, hread, hsnapshot⟩ := h
    exact ⟨text, hc.read (hapart path List.mem_cons_self) hread, hsnapshot⟩

theorem AllowIs.of_changesOnly {d d' : Disk} {paths : List String}
    (hc : Disk.ChangesOnly paths d d') {sentinel : String} {file : Option String}
    (hapart : ∀ p ∈ file.toList, ∀ q ∈ paths, d.Apart p q) {allow : Option AllowList}
    (h : AllowIs sentinel d file allow) : AllowIs sentinel d' file allow := by
  cases file with
  | none => exact h
  | some path =>
    obtain ⟨text, hread, hallow⟩ := h
    exact ⟨text, hc.read (hapart path List.mem_cons_self) hread, hallow⟩

theorem PreviousIs.of_changesOnly {d d' : Disk} {paths : List String}
    (hc : Disk.ChangesOnly paths d d') {file : Option String}
    (hapart : ∀ p ∈ file.toList, ∀ q ∈ paths, d.Apart p q) {previous : Option Catalog}
    (h : PreviousIs d file previous) : PreviousIs d' file previous := by
  cases file with
  | none => exact h
  | some path =>
    obtain ⟨text, c, hread, hparse⟩ := h
    exact ⟨text, c, hc.read (hapart path List.mem_cons_self) hread, hparse⟩

/-! ## 3. What stays along a course -/

/-- The files that an update writes to, temporary names included, if its catalog goes to the given
    one. -/
def writtenFiles (r : UpdateRequest) (target : String) : List String :=
  ownFiles r.snapshotFile ++ (ownFiles (some target) ++ ownFiles r.coordFile)

/-- What an update goes through that goes by the stations of the course, wherever it has them
    from. -/
structure Course.GoesBy (c : Course) (s : Settings) (r : UpdateRequest) (d : Disk) : Prop where
  target : r.updatedFile.or r.currentFile = some c.target
  previous : PreviousIs d r.currentFile c.inputs.previous
  allow : AllowIs s.sentinel d r.allowFile c.inputs.allow
  saved : Saves d r.snapshotFile (snapshotText c.inputs.stations) c.saved
  canonical : canonicalOf s.policy c.inputs.stations = .ok c.canonical
  rendered : (c.next s).render r.format = .ok c.text
  written : c.saved.Replaces c.target c.text c.written
  listed : r.coordFile.isSome = true → (c.next s).coordinates = .ok c.listing
  final : Saves c.written r.coordFile c.listing c.final

section Course

variable {s : Settings} {r : UpdateRequest} {d : Disk} {c : Course}

theorem Course.Listed.goesBy (hc : c.Listed s r d) : c.GoesBy s r d where
  target := hc.target
  previous := hc.inputs.previous
  allow := hc.inputs.allow
  saved := hc.saved
  canonical := hc.canonical
  rendered := hc.rendered
  written := hc.written
  listed := hc.listed
  final := hc.final

/-- A catalog that is written changes no file but those that the update writes to. -/
theorem Course.Wrote.changesOnly_files (hc : c.Wrote s r d) :
    Disk.ChangesOnly (writtenFiles r c.target) d c.written := by
  refine hc.changesOnly.mono fun p hp => ?_
  rw [writtenFiles, ← List.append_assoc]
  exact List.mem_append_left _ hp

theorem Course.GoesBy.changesOnly_written (hc : c.GoesBy s r d) :
    Disk.ChangesOnly (ownFiles r.snapshotFile ++ ownFiles (some c.target)) d c.written := by
  obtain ⟨_, _, _, hchanges, _⟩ := hc.written.lookup?_eq
  exact (saves_changesOnly hc.saved).trans hchanges

theorem Course.GoesBy.changesOnly (hc : c.GoesBy s r d) :
    Disk.ChangesOnly (writtenFiles r c.target) d c.final := by
  have h := hc.changesOnly_written.trans (saves_changesOnly hc.final)
  rw [List.append_assoc] at h
  exact h

/-- **The snapshot stays**: the catalog and the listing go to other files. -/
theorem Course.GoesBy.holdsIn_snapshot (hc : c.GoesBy s r d)
    (hwritten : (writtenFiles r c.target).Pairwise d.Apart) :
    HoldsIn c.final r.snapshotFile (snapshotText c.inputs.stations) := by
  obtain ⟨_, _, hapart⟩ := List.pairwise_append.1 hwritten
  obtain ⟨_, _, _, hwriting, _⟩ := hc.written.lookup?_eq
  refine (holdsIn_of_saves hc.saved).of_changesOnly
    (hwriting.trans (saves_changesOnly hc.final)) ?_
  intro p hp q hq
  exact (saves_changesOnly hc.saved).apart (hapart p hp q hq)

/-- **The written catalog stays**: the listing goes to another file. -/
theorem Course.GoesBy.holds_catalog (hc : c.GoesBy s r d)
    (hlisting : ∀ p ∈ ownFiles (some c.target), ∀ q ∈ ownFiles r.coordFile, d.Apart p q) :
    c.final.Holds c.target c.text := by
  refine hc.written.holds.of_changesOnly (saves_changesOnly hc.final) ?_
  intro q hq
  have hapart : ∀ p ∈ ownFiles (some c.target), c.written.Apart p q := fun p hp =>
    hc.changesOnly_written.apart (hlisting p hp q hq)
  exact ⟨hapart _ (List.mem_cons_of_mem _ List.mem_cons_self), hapart _ List.mem_cons_self⟩

/-- The listing is written aside from the catalog, if the files that are written are apart. -/
theorem listing_apart {target : String} (hwritten : (writtenFiles r target).Pairwise d.Apart) :
    ∀ p ∈ ownFiles (some target), ∀ q ∈ ownFiles r.coordFile, d.Apart p q := by
  obtain ⟨_, hrest, _⟩ := List.pairwise_append.1 hwritten
  obtain ⟨_, _, hapart⟩ := List.pairwise_append.1 hrest
  exact hapart

theorem Course.Listed.changesOnly (hc : c.Listed s r d) :
    Disk.ChangesOnly (writtenFiles r c.target) d c.final := hc.goesBy.changesOnly

theorem Course.Listed.holds (hc : c.Listed s r d)
    (hwritten : (writtenFiles r c.target).Pairwise d.Apart) : c.final.Holds c.target c.text :=
  hc.goesBy.holds_catalog (listing_apart hwritten)

/-- **What is written is verified**, whether that is asked for or not. -/
theorem Course.Listed.of (hc : c.Listed s r d)
    (hwritten : (writtenFiles r c.target).Pairwise d.Apart) : c.Of s r d :=
  ⟨hc, fun _ => ⟨c.text, (hc.holds hwritten).read,
    verify_render (sound_next hc.inputs).1 hc.rendered⟩⟩

theorem target_unique (hc : c.Prepared s r d) {target : String} (h : r.target = some target) :
    c.target = target :=
  Option.some.inj (hc.target.symm.trans h)

end Course

/-! ## 4. Courses that there are -/

/-- The files that an update writes. -/
def resultFiles (r : UpdateRequest) : List String :=
  r.snapshotFile.toList ++ (r.target.toList ++ r.coordFile.toList)

/-- The files that an update writes can be written, and they and their temporary names are different
    ones. -/
structure Clear (r : UpdateRequest) (target : String) (d : Disk) : Prop where
  given : r.target = some target
  apart : (writtenFiles r target).Pairwise d.Apart
  writable : ∀ path ∈ resultFiles r, ∃ l lt, d.Writable path l lt

section Clear

variable {s : Settings} {r : UpdateRequest} {d d' : Disk} {target : String}

/-- Files that are clear stay so. Nothing but the directories counts, and they stay. -/
theorem Clear.of_changesOnly (h : Clear r target d) {paths : List String}
    (hc : Disk.ChangesOnly paths d d') : Clear r target d' where
  given := h.given
  apart := h.apart.imp fun hpq => hc.apart hpq
  writable := by
    intro path hpath
    obtain ⟨l, lt, hw⟩ := h.writable path hpath
    exact ⟨l, lt, hw.of_changesOnly hc⟩

/-- Each of the files can be written. -/
theorem Clear.of_mem (h : Clear r target d) {path : String}
    (hpath : path ∈ r.snapshotFile.toList ∨ path = target ∨ path ∈ r.coordFile.toList) :
    ∃ l lt, d.Writable path l lt := by
  refine h.writable path ?_
  rw [resultFiles, h.given]
  simpa using hpath

theorem Clear.snapshot (h : Clear r target d) :
    ∀ path ∈ r.snapshotFile.toList, ∃ l lt, d.Writable path l lt :=
  fun _ hpath => h.of_mem (.inl hpath)

theorem Clear.catalog (h : Clear r target d) : ∃ l lt, d.Writable target l lt :=
  h.of_mem (.inr (.inl rfl))

theorem Clear.listing (h : Clear r target d) :
    ∀ path ∈ r.coordFile.toList, ∃ l lt, d.Writable path l lt :=
  fun _ hpath => h.of_mem (.inr (.inr hpath))

theorem exists_saves {file : Option String}
    (h : ∀ path ∈ file.toList, ∃ l lt, d.Writable path l lt) (text : String) :
    ∃ d', Saves d file text d' := by
  cases file with
  | none => exact ⟨d, rfl⟩
  | some path =>
    obtain ⟨l, lt, hw⟩ := h path List.mem_cons_self
    exact hw.replaces text

/-- The catalog is written, from inputs that can be used. -/
theorem exists_wrote {i : Inputs} {canonical : Canonical} (hclear : Clear r target d)
    (hi : Gathered s r d i) (hcanonical : canonicalOf s.policy i.stations = .ok canonical) :
    ∃ c : Course, c.Wrote s r d ∧ c.inputs = i ∧ c.canonical = canonical ∧ c.target = target := by
  obtain ⟨d₁, hd₁⟩ := exists_saves hclear.snapshot (snapshotText i.stations)
  let c : Course := ⟨target, i, canonical, "", "", d₁, d₁, d₁⟩
  obtain ⟨text, htext⟩ := exists_render (sound_next (c := c) hi).2 r.format
  obtain ⟨l, lt, hw⟩ := hclear.catalog
  obtain ⟨d₂, hd₂⟩ := (hw.of_changesOnly (saves_changesOnly hd₁)).replaces text
  have hc : Course.Wrote ⟨target, i, canonical, text, "", d₁, d₂, d₂⟩ s r d :=
    ⟨⟨hclear.given, hi, hd₁, hcanonical⟩, htext, hd₂⟩
  exact ⟨_, hc, rfl, rfl, rfl⟩

/-- **There is a course** from inputs that can be used, through files that are clear. -/
theorem exists_course {i : Inputs} {canonical : Canonical} (hclear : Clear r target d)
    (hi : Gathered s r d i) (hcanonical : canonicalOf s.policy i.stations = .ok canonical)
    (hlisting : r.coordFile.isSome = true → ∃ text,
      (reconcile s.types canonical.stations i.previous i.allow).catalog.coordinates = .ok text) :
    ∃ c : Course, c.Of s r d ∧ c.inputs = i ∧ c.canonical = canonical ∧ c.target = target := by
  obtain ⟨c, hc, rfl, rfl, rfl⟩ := exists_wrote hclear hi hcanonical
  obtain ⟨listing, hlisted⟩ : ∃ listing,
      r.coordFile.isSome = true → (c.next s).coordinates = .ok listing := by
    by_cases hsome : r.coordFile.isSome = true
    · obtain ⟨listing, h⟩ := hlisting hsome
      exact ⟨listing, fun _ => h⟩
    · exact ⟨"", fun h => absurd h hsome⟩
  obtain ⟨d', hd'⟩ := exists_saves (hclear.of_changesOnly hc.changesOnly).listing listing
  have hc' : Course.Listed { c with listing := listing, final := d' } s r d :=
    ⟨⟨⟨hc.target, hc.inputs, hc.saved, hc.canonical⟩, hc.rendered, hc.written⟩, hlisted, hd'⟩
  exact ⟨_, hc'.of hclear.apart, rfl, rfl, rfl⟩

/-- The update runs along the course, from the one world to the other. -/
structure Course.Gone (c : Course) (web : Web (StateM World)) (s : Settings) (r : UpdateRequest)
    (w w' : World) : Prop where
  gathered : ∃ w₁, Runs (gather web s r) w c.inputs w₁
  course : c.Of s r w.disk
  runs : Runs (update web s r) w () w'
  final : w'.disk = c.final

/-- **An update runs to its end** from inputs that can be used, through files that are clear. -/
theorem exists_run {web : Web (StateM World)} (hweb : r.inputFile = none → web.Still) {w : World}
    {i : Inputs} {es : List Log.Entry} {canonical : Canonical} (hclear : Clear r target w.disk)
    (hprevious : PreviousIs w.disk r.currentFile i.previous)
    (hallow : AllowIs s.sentinel w.disk r.allowFile i.allow)
    (hloads : Loads web s r w.disk i.stations es)
    (hcanonical : canonicalOf s.policy i.stations = .ok canonical)
    (hlisting : r.coordFile.isSome = true → ∃ text,
      (reconcile s.types canonical.stations i.previous i.allow).catalog.coordinates = .ok text) :
    ∃ (c : Course) (w' : World), c.Gone web s r w w' ∧ c.inputs = i ∧ c.canonical = canonical ∧
      c.target = target := by
  let w₁ : World := w.logged (readLog r i)
  have hload : Runs (loadStations web s r) w₁ i.stations (w₁.logged es) := Loads.runs hloads
  obtain ⟨hstations, _⟩ := (supplies_loadStations hweb).runs hload
  obtain ⟨c, hc, rfl, hreduced, htarget⟩ :=
    exists_course hclear ⟨hprevious, hallow, hstations⟩ hcanonical hlisting
  have hgather : Runs (gather web s r) w c.inputs _ :=
    runs_gatherFrom.2 ⟨hprevious, hallow, hload⟩
  exact ⟨c, _, ⟨⟨_, hgather⟩, hc, hc.runs hgather rfl, rfl⟩, rfl, hreduced, htarget⟩

end Clear

/-! ## 5. An update that moves a station -/

/-- A station as the registry may send it: an object with a key that nobody wants, and lists for the
    wire records in it. -/
def stationText (id lat lon elevation : String) : String :=
  "\x7b\"identifiers\":[[\"NEXRAD\",\"" ++ id ++ "\"]],\"header\":[\"" ++ lat ++ "\"," ++ lon ++
    "],\"note\":[null],\"location\":[[[\"GROUND\",\"" ++ elevation ++ "\"]]]\x7d"

/-- The report that it decodes to. -/
def reportAt (id lat lon elevation : String) : StationReport :=
  ⟨[⟨"NEXRAD", id⟩], [⟨"GROUND", elevation⟩], lat, lon, []⟩

/-- The station that is taken from it. -/
theorem taken_reportAt {id lat lon elevation : String}
    (hlat : Numeric.readFinite? (Text.trim lat.toList) = some (decimal lat))
    (hlon : Numeric.readFinite? (Text.trim lon.toList) = some (decimal lon))
    (helevation : Numeric.readFinite? (Text.trim elevation.toList) = some (decimal elevation)) :
    Taken .standard (reportAt id lat lon elevation) (stationAt id lat lon elevation) where
  id := rfl
  lat := ⟨_, hlat, rfl⟩
  lon := ⟨_, hlon, rfl⟩
  unknown := nofun
  elevation := by
    intro entry hentry
    cases hentry
    exact ⟨_, helevation, rfl⟩
  platform := rfl

/-- The two stations of values that decode to their reports. -/
theorem exists_canonicalOf_pair {stations : List Json.Value}
    {lat lon elevation lat' lon' elevation' : String}
    (hdecode : decodeStations stations =
      .ok [reportAt "A" lat lon elevation, reportAt "B" lat' lon' elevation'])
    (hA : Taken .standard (reportAt "A" lat lon elevation) (stationAt "A" lat lon elevation))
    (hB : Taken .standard (reportAt "B" lat' lon' elevation')
      (stationAt "B" lat' lon' elevation')) :
    ∃ c, canonicalOf .standard stations = .ok c ∧ c.stations.Coherent ∧
      c.stations.toList = [stationAt "A" lat lon elevation, stationAt "B" lat' lon' elevation'] :=
  exists_canonicalOf_of_taken hdecode (.cons hA (.cons hB .nil))

/-- A record with a place. -/
def recordAt (id : String) (lat lon : Json.Scalar) (elevation : Option Json.Scalar) : Record where
  id := id
  fields := [("id", .string id), ("type", .string "w"), ("lat", lat), ("lon", lon)] ++
    elevation.toList.map fun e => ("elevation", e)

/-- Two records with integers, and no elevation yet. -/
def exampleCatalog : Catalog where
  records :=
    [recordAt "A" (.number (.integer ⟨1, by decide, by decide⟩))
        (.number (.integer ⟨2, by decide, by decide⟩)) none,
      recordAt "B" (.number (.integer ⟨3, by decide, by decide⟩))
        (.number (.integer ⟨4, by decide, by decide⟩)) none]

def exampleText : String :=
  "[\x7b\"id\":\"A\",\"type\":\"w\",\"lat\":1,\"lon\":2\x7d," ++
    "\x7b\"id\":\"B\",\"type\":\"w\",\"lat\":3,\"lon\":4\x7d]"

theorem parse_exampleText : Catalog.parse exampleText = .ok exampleCatalog := by
  decide +kernel

/-- Two stations in a snapshot. -/
def exampleSnapshot : String :=
  "[" ++ stationText "A" "1.5" "-2.5" "100" ++ "," ++ stationText "B" "3.5" "4.5" "200" ++ "]"

/-- The catalog, the snapshot, and two lists that allow one of the stations each. -/
def exampleDisk : Disk where
  entries := [(["sites"], .file (.text exampleText)),
    (["stations"], .file (.text exampleSnapshot)),
    (["first"], .file (.text "id,by\nA,HOMR\n")),
    (["other"], .file (.text "id,by\nB,HOMR\n"))]
  start := []

/-- The update of the catalog in place, from the snapshot. -/
def exampleRequest : UpdateRequest where
  currentFile := some "sites"
  updatedFile := none
  allowFile := none
  verify := true
  coordFile := none
  snapshotFile := none
  inputFile := some "stations"
  plain := false
  moreRadars := false
  currentOnly := false
  remind := false

/-- The same with all that can be asked for besides: the first station alone may be moved. -/
def movingRequest : UpdateRequest :=
  { exampleRequest with
    allowFile := some "first", coordFile := some "coords", snapshotFile := some "saved" }

/-- The same from the registry: the other station alone may be moved. -/
def liveRequest : UpdateRequest :=
  { movingRequest with inputFile := none, allowFile := some "other" }

/-- What the registry answers: two stations for the first platform, and none for any other. -/
def exampleAnswers (q : Query) : Except Unanswered Answer :=
  let stations := if q.parameters.lookup "platform" = some "NEXRAD" then
    stationText "A" "5.5" "6.5" "300" ++ "," ++ stationText "B" "7.5" "8.5" "400" else ""
  .ok ⟨200, "200 OK", "\x7b\"stationCollection\":\x7b\"stations\":[" ++ stations ++ "]\x7d\x7d"⟩

/-- The registry with these answers. -/
def exampleWeb : Web (StateM World) := .steady exampleAnswers

theorem parse_first : AllowList.parse "HOMR" "id,by\nA,HOMR\n" = .ofList ["A"] := by
  have hrows : ((Csv.rows "id,by\nA,HOMR\n").drop 1).filterMap (AllowList.allowedBy "HOMR") =
      ["A"] := by decide +kernel
  rw [AllowList.parse, hrows]

theorem parse_other : AllowList.parse "HOMR" "id,by\nB,HOMR\n" = .ofList ["B"] := by
  have hrows : ((Csv.rows "id,by\nB,HOMR\n").drop 1).filterMap (AllowList.allowedBy "HOMR") =
      ["B"] := by decide +kernel
  rw [AllowList.parse, hrows]

/-- The stations of the snapshot. -/
theorem exists_canonical_example : ∃ stations c, readSnapshot exampleSnapshot = .ok stations ∧
    canonicalOf .standard stations = .ok c ∧ c.stations.Coherent ∧
    c.stations.toList = [stationAt "A" "1.5" "-2.5" "100", stationAt "B" "3.5" "4.5" "200"] := by
  have hdecoded : (readSnapshot exampleSnapshot).toOption.bind
      (fun stations => (decodeStations stations).toOption) =
        some [reportAt "A" "1.5" "-2.5" "100", reportAt "B" "3.5" "4.5" "200"] := by
    decide +kernel
  obtain ⟨stations, hread, hdecode⟩ := Option.bind_eq_some_iff.1 hdecoded
  obtain ⟨c, hc, hcoherent, hstations⟩ := exists_canonicalOf_pair (toOption_eq_some.1 hdecode)
    (taken_reportAt (by decide +kernel) (by decide +kernel) (by decide +kernel))
    (taken_reportAt (by decide +kernel) (by decide +kernel) (by decide +kernel))
  exact ⟨stations, c, toOption_eq_some.1 hread, hc, hcoherent, hstations⟩

/-- The stations of the registry. -/
theorem exists_live_example : ∃ stations es c,
    (∀ d, Loads exampleWeb .standard liveRequest d stations es) ∧
    canonicalOf .standard stations = .ok c ∧ c.stations.Coherent ∧
    c.stations.toList = [stationAt "A" "5.5" "6.5" "300", stationAt "B" "7.5" "8.5" "400"] := by
  let search (platform : String) : Except SearchError (List Json.Value) :=
    stationsOfReply platform
      (exampleAnswers (.ofPlatform Settings.standardRegistry.baseUrl false platform))
  have hdecoded : (search "NEXRAD").toOption.bind
      (fun stations => (decodeStations stations).toOption) =
        some [reportAt "A" "5.5" "6.5" "300", reportAt "B" "7.5" "8.5" "400"] := by
    decide +kernel
  have hempty : (search "TDWR").toOption.map List.length = some 0 := by decide +kernel
  obtain ⟨stations, hfound, hdecode⟩ := Option.bind_eq_some_iff.1 hdecoded
  obtain ⟨others, hothers, hlength⟩ := Option.map_eq_some_iff.1 hempty
  obtain rfl := List.eq_nil_of_length_eq_zero hlength
  obtain ⟨c, hc, hcoherent, hstations⟩ := exists_canonicalOf_pair (toOption_eq_some.1 hdecode)
    (taken_reportAt (by decide +kernel) (by decide +kernel) (by decide +kernel))
    (taken_reportAt (by decide +kernel) (by decide +kernel) (by decide +kernel))
  refine ⟨stations, (["NEXRAD", "TDWR"].zipWith searchLog [stations, []]).flatten, c, ?_, hc,
    hcoherent, hstations⟩
  intro d w
  refine runs_fetchStations_steady.2 ⟨[stations, []], ?_, ?_, rfl⟩
  · exact .cons (toOption_eq_some.1 hfound) (.cons (toOption_eq_some.1 hothers) .nil)
  · simp only [List.flatten_cons, List.flatten_nil, List.append_nil]

theorem allows_ofList (ids : List String) (id : String) :
    allows (some (.ofList ids)) id = decide (id ∈ ids) :=
  AllowList.contains_ofList ids id

/-- Two records and the two stations of theirs. -/
theorem merge_pair {stations : Stations} (h : stations.Coherent)
    {lat lon elevation lat' lon' elevation' : String}
    (hs : stations.toList = [stationAt "A" lat lon elevation, stationAt "B" lat' lon' elevation'])
    (x y x' y' : Json.Scalar) (z z' : Option Json.Scalar) (allow : Option AllowList) :
    (merge stations ⟨[recordAt "A" x y z, recordAt "B" x' y' z']⟩ allow).catalog =
      ⟨[if allows allow "A" then
            recordAt "A" (.number (.real (decimal lat))) (.number (.real (decimal lon)))
              (decimalField elevation)
          else recordAt "A" x y (decimalField elevation),
        if allows allow "B" then
            recordAt "B" (.number (.real (decimal lat'))) (.number (.real (decimal lon')))
              (decimalField elevation')
          else recordAt "B" x' y' (decimalField elevation')]⟩ := by
  have hA : stations.get? "A" = some (stationAt "A" lat lon elevation) := by
    rw [h.get?, hs]
    rfl
  have hB : stations.get? "B" = some (stationAt "B" lat' lon' elevation') := by
    rw [h.get?, hs]
    rfl
  simp only [merge, mergeRecord, recordAt, List.map_cons, List.map_nil, hA, hB]
  cases z <;> cases z' <;> cases allows allow "A" <;> cases allows allow "B" <;> rfl

/-- The catalog after the merge with the snapshot: the first station is moved, and the other one is
    raised. -/
def movedCatalog : Catalog where
  records :=
    [recordAt "A" (.number (.real (decimal "1.5"))) (.number (.real (decimal "-2.5")))
        (decimalField "100"),
      recordAt "B" (.number (.integer ⟨3, by decide, by decide⟩))
        (.number (.integer ⟨4, by decide, by decide⟩)) (decimalField "200")]

theorem clear_moving : Clear movingRequest "sites" exampleDisk where
  given := rfl
  apart := by decide
  writable := by
    intro path hpath
    have hpath : path ∈ ["saved", "sites", "coords"] := hpath
    simp only [List.mem_cons, List.not_mem_nil, or_false] at hpath
    rcases hpath with rfl | rfl | rfl
    · exact ⟨["saved"], ["saved.tmp"], by decide, by decide, by decide, by decide, by decide,
        by decide⟩
    · exact ⟨["sites"], ["sites.tmp"], by decide, by decide, by decide, by decide, by decide,
        by decide⟩
    · exact ⟨["coords"], ["coords.tmp"], by decide, by decide, by decide, by decide, by decide,
        by decide⟩

theorem clear_live : Clear liveRequest "sites" exampleDisk :=
  ⟨clear_moving.given, clear_moving.apart, clear_moving.writable⟩

/-- **The update from the snapshot** runs to its end, and moves the first station. -/
theorem exists_run_example (web : Web (StateM World)) : ∃ (c : Course) (w : World),
    c.Gone web .standard movingRequest ⟨exampleDisk, [], ""⟩ w ∧ c.target = "sites" ∧
      c.inputs.allow = some (.ofList ["A"]) ∧ c.canonical.stations.Coherent ∧
      c.canonical.stations.toList =
        [stationAt "A" "1.5" "-2.5" "100", stationAt "B" "3.5" "4.5" "200"] ∧
      c.next .standard = movedCatalog ∧ c.listing = "1.5N 2.5W\n3N 4E\n" := by
  obtain ⟨stations, canonical, hread, hcanonical, hcoherent, hstations⟩ := exists_canonical_example
  let i : Inputs := ⟨some exampleCatalog, some (.ofList ["A"]), stations⟩
  have hnext : (reconcile Settings.standard.types canonical.stations i.previous i.allow).catalog =
      movedCatalog := by
    have hmerge : (merge canonical.stations exampleCatalog (some (.ofList ["A"]))).catalog = _ :=
      merge_pair hcoherent hstations _ _ _ _ _ _ _
    simp only [allows_ofList] at hmerge
    exact hmerge
  have hlisting : movedCatalog.coordinates = .ok "1.5N 2.5W\n3N 4E\n" := by decide +kernel
  have hprevious : PreviousIs exampleDisk movingRequest.currentFile i.previous :=
    ⟨_, _, rfl, parse_exampleText, rfl⟩
  have hallow : AllowIs Settings.standard.sentinel exampleDisk movingRequest.allowFile i.allow :=
    ⟨_, rfl, congrArg some parse_first.symm⟩
  have hloads : Loads web .standard movingRequest exampleDisk i.stations
      (stationsLog (some "stations")) := ⟨⟨_, rfl, hread⟩, rfl⟩
  obtain ⟨c, w, hgone, hi, hreduced, htarget⟩ :=
    exists_run (w := ⟨exampleDisk, [], ""⟩) (still_of_input rfl) clear_moving hprevious hallow
      hloads hcanonical fun _ => ⟨_, by rw [hnext, hlisting]⟩
  rw [← hi, ← hreduced] at hnext
  have hnext : c.next .standard = movedCatalog := hnext
  have hlisted := hgone.course.listed rfl
  rw [hnext, hlisting] at hlisted
  have hallow : c.inputs.allow = some (.ofList ["A"]) := congrArg Inputs.allow hi
  exact ⟨c, w, hgone, htarget, hallow, hreduced ▸ hcoherent, hreduced ▸ hstations, hnext,
    (Except.ok.inj hlisted).symm⟩

/-- **The update from the registry** runs to its end on any disk with two such records, and moves
    the other station. -/
theorem exists_live_run_example {w : World} {text : String} {x y x' y' : Json.Scalar}
    {z z' : Option Json.Scalar} (hclear : Clear liveRequest "sites" w.disk)
    (hsites : w.disk.read "sites" = .ok (.text text))
    (hparse : Catalog.parse text = .ok ⟨[recordAt "A" x y z, recordAt "B" x' y' z']⟩)
    (hother : w.disk.read "other" = .ok (.text "id,by\nB,HOMR\n")) (listing : String)
    (hlisting : Catalog.coordinates ⟨[recordAt "A" x y (decimalField "300"),
      recordAt "B" (.number (.real (decimal "7.5"))) (.number (.real (decimal "8.5")))
        (decimalField "400")]⟩ = .ok listing) :
    ∃ (c : Course) (w' : World), c.Gone exampleWeb .standard liveRequest w w' ∧ c.target = "sites" ∧
      c.inputs.allow = some (.ofList ["B"]) ∧ c.canonical.stations.Coherent ∧
      c.canonical.stations.toList =
        [stationAt "A" "5.5" "6.5" "300", stationAt "B" "7.5" "8.5" "400"] ∧
      c.listing = listing := by
  obtain ⟨stations, es, canonical, hloads, hcanonical, hcoherent, hstations⟩ := exists_live_example
  let i : Inputs := ⟨some ⟨[recordAt "A" x y z, recordAt "B" x' y' z']⟩, some (.ofList ["B"]),
    stations⟩
  have hcoordinates : (reconcile Settings.standard.types canonical.stations i.previous
      i.allow).catalog.coordinates = .ok listing := by
    have hnext := merge_pair hcoherent hstations x y x' y' z z' (some (.ofList ["B"]))
    simp only [allows_ofList] at hnext
    refine (congrArg Catalog.coordinates hnext).trans ?_
    exact hlisting
  obtain ⟨c, w', hgone, hi, hreduced, htarget⟩ :=
    exists_run (i := i) (fun _ => Web.still_steady exampleAnswers) hclear
      ⟨_, _, hsites, hparse, rfl⟩ ⟨_, hother, congrArg some parse_other.symm⟩
      (hloads w.disk) hcanonical fun _ => ⟨listing, hcoordinates⟩
  have hlisted := hgone.course.listed rfl
  rw [← hi, ← hreduced] at hcoordinates
  have hlisted : c.listing = listing := Except.ok.inj (hlisted.symm.trans hcoordinates)
  have hallow : c.inputs.allow = some (.ofList ["B"]) := congrArg Inputs.allow hi
  exact ⟨c, w', hgone, htarget, hallow, hreduced ▸ hcoherent, hreduced ▸ hstations, hlisted⟩

/-- Nothing is set, and there is no settings file. -/
def exampleEnvironment : Environment where
  home := ""
  settingsHome := none
  settingsFile := none
  logFilter := none
  logStyle := none
  coloursRefused := false
  coloursInsisted := false

/-- A command line with nothing but a command. -/
def lineOf (request : Request) : CommandLine where
  settingsFile := none
  verbosity := 0
  quiet := false
  request := request

theorem settingsAre_example :
    SettingsAre exampleDisk exampleEnvironment.standardFile none .standard := by
  apply settingsAre_standard
  decide

/-- The run of the program that updates the catalog from the registry. -/
theorem exists_live_course : ∃ (c : Course) (w : World),
    Runs (execute exampleWeb exampleEnvironment.standardFile (lineOf (.update liveRequest)))
        ⟨exampleDisk, [], ""⟩ () w ∧
      c.Gone exampleWeb .standard liveRequest ⟨exampleDisk, [], ""⟩ w ∧
      c.listing = "1N 2E\n7.5N 8.5E\n" := by
  obtain ⟨c, w, hgone, _, _, _, _, hlisting⟩ :=
    exists_live_run_example (w := ⟨exampleDisk, [], ""⟩) clear_live rfl parse_exampleText rfl
      "1N 2E\n7.5N 8.5E\n" (by decide +kernel)
  exact ⟨c, w, (runs_execute rfl).2 ⟨.standard, settingsAre_example, hgone.runs⟩, hgone, hlisting⟩

theorem code_live : (transcribeCommand exampleWeb exampleEnvironment (lineOf (.update liveRequest))
    exampleDisk).code = 0 := by
  obtain ⟨_, w, hrun, _⟩ := exists_live_course
  exact code_eq_zero.2 ⟨w, hrun⟩

theorem read_live : (transcribeCommand exampleWeb exampleEnvironment
    (lineOf (.update liveRequest)) exampleDisk).disk.read "coords" =
      .ok (.text "1N 2E\n7.5N 8.5E\n") := by
  obtain ⟨c, w, hrun, hgone, hlisting⟩ := exists_live_course
  rw [transcribeCommand_of_runs hrun, hgone.final, ← hlisting]
  exact (holdsIn_of_saves hgone.course.final "coords" rfl).read

end RadarCatalog.Command
