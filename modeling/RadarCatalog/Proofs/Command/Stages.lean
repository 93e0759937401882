import RadarCatalog.Proofs.Command.Searches

/-!
# The stages of an update

One lemma on success and one on failure for each stage of `update`, in terms of what the disk holds
and of what the stage adds to the log.

* The stages up to `loadStations` read files, or search the registry, and write none.
* `saveStations`, `saveCatalog` and `saveCoordinates` are one atomic write each.
-/

namespace RadarCatalog.Command

open RadarCatalog.Catalog RadarCatalog.Files RadarCatalog.Registry RadarCatalog.Update

/-! ## 1. Reading the inputs -/

/-- The previous catalog that a disk holds in a file, if one is named. -/
def PreviousIs (d : Disk) : Option String → Option Catalog → Prop
  | none, previous => previous = none
  | some path, previous => ∃ text c, d.read path = .ok (.text text) ∧ Catalog.parse text = .ok c ∧
      previous = some c

def previousLog (file : Option String) : List Log.Entry :=
  file.toList.map fun path => ⟨.info, "Reading current sites from '" ++ path ++ "'"⟩

theorem runs_readCatalog {path : String} {c : Catalog} {w w' : World} :
    Runs (readCatalog (m := StateM World) path) w c w' ↔
      (∃ text, w.disk.read path = .ok (.text text) ∧ Catalog.parse text = .ok c) ∧ w' = w := by
  unfold readCatalog
  rw [runs_bind]
  constructor
  · intro h
    obtain ⟨text, w₁, hread, hcheck⟩ := h
    obtain ⟨htext, rfl⟩ := runs_readText.1 hread
    obtain ⟨hparse, rfl⟩ := runs_check.1 hcheck
    exact ⟨⟨text, htext, hparse⟩, rfl⟩
  · intro h
    obtain ⟨⟨text, htext, hparse⟩, rfl⟩ := h
    exact ⟨text, w', runs_readText.2 ⟨htext, rfl⟩, runs_check.2 ⟨hparse, rfl⟩⟩

theorem fails_readCatalog {path : String} {e : Abort} {w w' : World}
    (h : Fails (readCatalog (m := StateM World) path) w e w') : w' = w ∧
      ((∃ cause, e = .update (.read path cause)) ∨ ∃ text ce,
        w.disk.read path = .ok (.text text) ∧ Catalog.parse text = .error ce ∧
          e = .update (.catalog ce)) := by
  unfold readCatalog at h
  rcases fails_bind.1 h with hread | ⟨text, w₁, hread, hcheck⟩
  · obtain ⟨he, rfl, _⟩ := fails_readText hread
    exact ⟨rfl, .inl he⟩
  · obtain ⟨htext, rfl⟩ := runs_readText.1 hread
    obtain ⟨ce, hparse, rfl, rfl⟩ := fails_check.1 hcheck
    exact ⟨rfl, .inr ⟨text, ce, htext, hparse, rfl⟩⟩

theorem runs_readPrevious {file : Option String} {previous : Option Catalog} {w w' : World} :
    Runs (readPrevious (m := StateM World) file) w previous w' ↔
      PreviousIs w.disk file previous ∧ w' = w.logged (previousLog file) := by
  cases file with
  | none =>
    simp only [readPrevious, PreviousIs, previousLog, Option.toList, List.map_nil, World.logged_nil]
    exact runs_pure
  | some path =>
    simp only [readPrevious, PreviousIs, previousLog, Option.toList, List.map_cons, List.map_nil]
    rw [runs_say_bind]
    constructor
    · intro hrest
      obtain ⟨c, w₂, hread, hpure⟩ := runs_bind.1 hrest
      obtain ⟨⟨text, htext, hparse⟩, rfl⟩ := runs_readCatalog.1 hread
      obtain ⟨rfl, rfl⟩ := runs_pure.1 hpure
      exact ⟨⟨text, c, htext, hparse, rfl⟩, rfl⟩
    · intro h
      obtain ⟨⟨text, c, htext, hparse, rfl⟩, rfl⟩ := h
      exact runs_bind.2 ⟨c, _, runs_readCatalog.2 ⟨⟨text, htext, hparse⟩, rfl⟩,
        runs_pure.2 ⟨rfl, rfl⟩⟩

/-- The only failure that is about a catalog is that of the current file. -/
theorem fails_readPrevious {file : Option String} {e : Abort} {w w' : World}
    (h : Fails (readPrevious (m := StateM World) file) w e w') : w'.disk = w.disk ∧
      ∃ path, file = some path ∧ ((∃ cause, e = .update (.read path cause)) ∨ ∃ text ce,
        w.disk.read path = .ok (.text text) ∧ Catalog.parse text = .error ce ∧
          e = .update (.catalog ce)) := by
  cases file with
  | none => exact absurd h not_fails_pure
  | some path =>
    unfold readPrevious at h
    have hrest := fails_say_bind.1 h
    rcases fails_bind.1 hrest with hread | ⟨_, _, _, hpure⟩
    · obtain ⟨rfl, he⟩ := fails_readCatalog hread
      exact ⟨rfl, path, rfl, he⟩
    · exact absurd hpure not_fails_pure

/-- The allow-list that a disk holds in a file, if one is named. -/
def AllowIs (sentinel : String) (d : Disk) : Option String → Option AllowList → Prop
  | none, allow => allow = none
  | some path, allow => ∃ text, d.read path = .ok (.text text) ∧
      allow = some (AllowList.parse sentinel text)

def allowLog : Option String → Option AllowList → List Log.Entry
  | some path, some list =>
    [⟨.info, "Reading stations to update from '" ++ path ++ "'"⟩,
      ⟨.debug, toString list.size ++ " stations allowed a full update"⟩]
  | _, _ => []

theorem runs_readAllowList {sentinel : String} {file : Option String} {allow : Option AllowList}
    {w w' : World} : Runs (readAllowList (m := StateM World) sentinel file) w allow w' ↔
      AllowIs sentinel w.disk file allow ∧ w' = w.logged (allowLog file allow) := by
  cases file with
  | none =>
    simp only [readAllowList, AllowIs, allowLog, World.logged_nil]
    exact runs_pure
  | some path =>
    simp only [readAllowList, AllowIs]
    rw [runs_say_bind]
    constructor
    · intro hrest
      obtain ⟨text, w₂, hread, hrest⟩ := runs_bind.1 hrest
      obtain ⟨htext, rfl⟩ := runs_readText.1 hread
      have hpure := runs_say_bind.1 hrest
      obtain ⟨rfl, rfl⟩ := runs_pure.1 hpure
      exact ⟨⟨text, htext, rfl⟩, World.logged_logged w _ _⟩
    · intro h
      obtain ⟨⟨text, htext, rfl⟩, rfl⟩ := h
      refine runs_bind.2 ⟨text, _, runs_readText.2 ⟨htext, rfl⟩,
        runs_say_bind.2 (runs_pure.2 ⟨rfl, ?_⟩)⟩
      rw [World.logged_logged]
      rfl

theorem fails_readAllowList {sentinel : String} {file : Option String} {e : Abort} {w w' : World}
    (h : Fails (readAllowList (m := StateM World) sentinel file) w e w') : w'.disk = w.disk ∧
      ∃ path cause, e = .update (.read path cause) := by
  cases file with
  | none => exact absurd h not_fails_pure
  | some path =>
    unfold readAllowList at h
    have hrest := fails_say_bind.1 h
    rcases fails_bind.1 hrest with hread | ⟨_, _, _, hrest⟩
    · obtain ⟨⟨cause, rfl⟩, rfl, _⟩ := fails_readText hread
      exact ⟨rfl, path, cause, rfl⟩
    · exact absurd (fails_say_bind.1 hrest) not_fails_pure

/-- The station values that a disk holds in a file. Without a file they are any that came in. -/
def StationsAre (d : Disk) : Option String → List Json.Value → Prop
  | none, stations => Obtained stations
  | some path, stations => ∃ text, d.read path = .ok (.text text) ∧
      readSnapshot text = .ok stations

def stationsLog (file : Option String) : List Log.Entry :=
  file.toList.map fun path => ⟨.info, "Reading HOMR stations from '" ++ path ++ "'"⟩

theorem StationsAre.obtained {d : Disk} {file : Option String} {stations : List Json.Value}
    (h : StationsAre d file stations) : Obtained stations := by
  cases file with
  | none => exact h
  | some path =>
    obtain ⟨text, _, hsnapshot⟩ := h
    exact .snapshot hsnapshot

/-- Why there are no station values: the search of the registry gave none, or a file is not read or
    holds no list. -/
inductive Unsupplied (file : Option String) : Abort → Prop where
  | search {e : SearchError} (input : file = none) : Unsupplied file (.search e)
  | file (path cause : String) : Unsupplied file (.update (.read path cause))
  | snapshot (e : Json.Error) : Unsupplied file (.update (.snapshotText e))

/-- The task brings the station values of the file, or without a file any that came in. However it
    ends, it leaves the disk alone, and it fails for want of station values. -/
structure Supplies (load : Task (StateM World) (List Json.Value)) (file : Option String) : Prop where
  runs : ∀ {w w' : World} {stations : List Json.Value}, Runs load w stations w' →
    StationsAre w.disk file stations ∧ w'.disk = w.disk
  fails : ∀ {w w' : World} {e : Abort}, Fails load w e w' → w'.disk = w.disk ∧ Unsupplied file e

section Load

variable {web : Web (StateM World)} {s : Settings} {r : UpdateRequest}

/-- The station values of an input file. The web has no part in it. -/
theorem runs_loadStations_of_file (hinput : r.inputFile.isSome = true)
    {stations : List Json.Value} {w w' : World} :
    Runs (loadStations web s r) w stations w' ↔
      StationsAre w.disk r.inputFile stations ∧ w' = w.logged (stationsLog r.inputFile) := by
  obtain ⟨path, hpath⟩ := Option.isSome_iff_exists.1 hinput
  simp only [loadStations, hpath, StationsAre, stationsLog, Option.toList, List.map_cons,
    List.map_nil]
  rw [runs_say_bind]
  constructor
  · intro hrest
    obtain ⟨text, w₂, hread, hcheck⟩ := runs_bind.1 hrest
    obtain ⟨htext, rfl⟩ := runs_readText.1 hread
    obtain ⟨hsnapshot, rfl⟩ := runs_check.1 hcheck
    exact ⟨⟨text, htext, hsnapshot⟩, rfl⟩
  · intro h
    obtain ⟨⟨text, htext, hsnapshot⟩, rfl⟩ := h
    exact runs_bind.2 ⟨text, _, runs_readText.2 ⟨htext, rfl⟩, runs_check.2 ⟨hsnapshot, rfl⟩⟩

/-- With an input file nothing is asked of the web. -/
theorem still_of_input (hinput : r.inputFile.isSome = true) : r.inputFile = none → web.Still := by
  intro hnone
  rw [hnone] at hinput
  cases hinput

/-- **The station values that are loaded** are those of the file, or came in from the registry. All
    that a search of it asks of the web is that the disk stays as it is. -/
theorem supplies_loadStations (hweb : r.inputFile = none → web.Still) :
    Supplies (loadStations web s r) r.inputFile where
  runs := by
    intro w stations w' h
    cases hinput : r.inputFile with
    | none =>
      simp only [loadStations, hinput] at h
      obtain ⟨hdisk, hobtained⟩ := runs_fetchStations (hweb hinput) h
      exact ⟨hobtained, hdisk⟩
    | some path =>
      have hsome : r.inputFile.isSome = true := Option.isSome_iff_exists.2 ⟨path, hinput⟩
      rw [runs_loadStations_of_file hsome, hinput] at h
      obtain ⟨hstations, rfl⟩ := h
      exact ⟨hstations, rfl⟩
  fails := by
    intro w e w' h
    cases hinput : r.inputFile with
    | none =>
      simp only [loadStations, hinput] at h
      obtain ⟨hdisk, se, rfl⟩ := fails_fetchStations (hweb hinput) h
      exact ⟨hdisk, .search rfl⟩
    | some path =>
      simp only [loadStations, hinput] at h
      have hrest := fails_say_bind.1 h
      rcases fails_bind.1 hrest with hread | ⟨text, w₂, hread, hcheck⟩
      · obtain ⟨⟨cause, rfl⟩, rfl, _⟩ := fails_readText hread
        exact ⟨rfl, .file path cause⟩
      · obtain ⟨_, rfl⟩ := runs_readText.1 hread
        obtain ⟨je, _, rfl, rfl⟩ := fails_check.1 hcheck
        exact ⟨rfl, .snapshot je⟩

/-- The task of an update that loads its stations brings these, and logs these entries: those of the
    file, or those that the registry has at any time. -/
def Loads (web : Web (StateM World)) (s : Settings) (r : UpdateRequest) (d : Disk)
    (stations : List Json.Value) (es : List Log.Entry) : Prop :=
  match r.inputFile with
  | some path => StationsAre d (some path) stations ∧ es = stationsLog (some path)
  | none => ∀ w : World, Runs (fetchStations web s.registry (s.query r.moreRadars) r.currentOnly) w
      stations (w.logged es)

theorem Loads.runs {stations : List Json.Value} {es : List Log.Entry} {w : World}
    (h : Loads web s r w.disk stations es) :
    Runs (loadStations web s r) w stations (w.logged es) := by
  cases hinput : r.inputFile with
  | none =>
    simp only [Loads, hinput] at h
    simp only [loadStations, hinput]
    exact h w
  | some path =>
    simp only [Loads, hinput] at h
    obtain ⟨hstations, rfl⟩ := h
    have hsome : r.inputFile.isSome = true := Option.isSome_iff_exists.2 ⟨path, hinput⟩
    rw [runs_loadStations_of_file hsome, hinput]
    exact ⟨hstations, rfl⟩

/-- What is loaded once is loaded again, if the registry answers alike each time. -/
theorem exists_loads (hsteady : r.inputFile = none → web.IsSteady) {stations : List Json.Value}
    {w w' : World} (h : Runs (loadStations web s r) w stations w') :
    ∃ es, Loads web s r w.disk stations es ∧ w' = w.logged es := by
  cases hinput : r.inputFile with
  | none =>
    obtain ⟨answers, rfl⟩ := hsteady hinput
    simp only [loadStations, hinput] at h
    obtain ⟨batches, hfinds, hstations, rfl⟩ := runs_fetchStations_steady.1 h
    refine ⟨_, ?_, rfl⟩
    simp only [Loads, hinput]
    exact fun v => runs_fetchStations_steady.2 ⟨batches, hfinds, hstations, rfl⟩
  | some path =>
    have hsome : r.inputFile.isSome = true := Option.isSome_iff_exists.2 ⟨path, hinput⟩
    rw [runs_loadStations_of_file hsome, hinput] at h
    obtain ⟨hstations, rfl⟩ := h
    refine ⟨_, ?_, rfl⟩
    simp only [Loads, hinput]
    exact ⟨hstations, trivial⟩

end Load

/-! ### Files that read the same hold the same -/

section Unique

variable {d d' : Disk} {file file' : Option String}
  (hsame : file'.map d'.read = file.map d.read)
include hsame

theorem PreviousIs.unique {previous previous' : Option Catalog} (h : PreviousIs d file previous)
    (h' : PreviousIs d' file' previous') : previous' = previous := by
  cases file with
  | none =>
    cases file' with
    | none => exact h'.trans h.symm
    | some path' => cases hsame
  | some path =>
    cases file' with
    | none => cases hsame
    | some path' =>
      obtain ⟨text, c, hread, hparse, rfl⟩ := h
      obtain ⟨text', c', hread', hparse', rfl⟩ := h'
      have heq : d'.read path' = d.read path := Option.some.inj hsame
      rw [hread, hread'] at heq
      cases heq
      rw [hparse] at hparse'
      cases hparse'
      rfl

theorem AllowIs.unique {sentinel : String} {allow allow' : Option AllowList}
    (h : AllowIs sentinel d file allow) (h' : AllowIs sentinel d' file' allow') :
    allow' = allow := by
  cases file with
  | none =>
    cases file' with
    | none => exact h'.trans h.symm
    | some path' => cases hsame
  | some path =>
    cases file' with
    | none => cases hsame
    | some path' =>
      obtain ⟨text, hread, rfl⟩ := h
      obtain ⟨text', hread', rfl⟩ := h'
      have heq : d'.read path' = d.read path := Option.some.inj hsame
      rw [hread, hread'] at heq
      cases heq
      rfl

theorem StationsAre.unique (hfile : file.isSome = true) {stations stations' : List Json.Value}
    (h : StationsAre d file stations) (h' : StationsAre d' file' stations') :
    stations' = stations := by
  cases file with
  | none => cases hfile
  | some path =>
    cases file' with
    | none => cases hsame
    | some path' =>
      obtain ⟨text, hread, hsnapshot⟩ := h
      obtain ⟨text', hread', hsnapshot'⟩ := h'
      have heq : d'.read path' = d.read path := Option.some.inj hsame
      rw [hread, hread'] at heq
      cases heq
      rw [hsnapshot] at hsnapshot'
      cases hsnapshot'
      rfl

end Unique

/-! ## 2. The next catalog -/

def mergeLog (m : Merge) : List Log.Entry :=
  (m.notFound.map fun id => ⟨.warn, notFoundText id⟩) ++
    [⟨.info, toString m.catalog.size ++ " stations: " ++ toString m.summary.fullUpdates ++
      " full updates, " ++ toString m.summary.elevationOnly ++ " elevation only, " ++
      toString m.summary.notFound ++ " not found"⟩]

def reconciledLog (r : Reconciled) : List Log.Entry :=
  match r.merge with
  | none => [⟨.info, "No current catalog, building one from HOMR stations"⟩]
  | some m => mergeLog m

def canonicalLog (c : Canonical) : List Log.Entry :=
  [⟨.debug, toString c.stations.size ++ " canonical stations (" ++ toString c.duplicatesDropped ++
    " duplicates dropped, " ++ toString c.unidentified ++ " without a ranked identifier)"⟩]

def computeLog (stations : List Json.Value) (c : Canonical) (r : Reconciled) : List Log.Entry :=
  ⟨.info, "Processing " ++ toString stations.length ++ " HOMR stations"⟩ ::
    (canonicalLog c ++ reconciledLog r)

/-- Messages one after the other. -/
theorem runs_forM_say {α : Type} {f : α → Log.Entry} {w w' : World} {u : Unit} : ∀ {xs : List α},
    Runs (xs.forM fun x => say (m := StateM World) (f x).level (f x).message) w u w' ↔
      w' = w.logged (xs.map f)
  | [] => by
    rw [List.forM, List.map_nil, World.logged_nil]
    exact runs_pure.trans ⟨fun h => h.2, fun h => ⟨rfl, h⟩⟩
  | x :: xs => by
    rw [List.forM, runs_say_bind, runs_forM_say, World.logged_logged]
    rfl

theorem not_fails_forM_say {α : Type} {f : α → Log.Entry} {w w' : World} {e : Abort} :
    ∀ {xs : List α},
      ¬ Fails (xs.forM fun x => say (m := StateM World) (f x).level (f x).message) w e w'
  | [], h => not_fails_pure h
  | x :: xs, h => by
    rw [List.forM] at h
    exact not_fails_forM_say (fails_say_bind.1 h)

theorem runs_reportReconciled {r : Reconciled} {u : Unit} {w w' : World} :
    Runs (reportReconciled (m := StateM World) r) w u w' ↔ w' = w.logged (reconciledLog r) := by
  obtain ⟨merge, catalog⟩ := r
  cases merge with
  | none => exact runs_say
  | some m =>
    show Runs (_ >>= _) w u w' ↔ w' = w.logged (mergeLog m)
    rw [runs_bind]
    constructor
    · intro h
      obtain ⟨_, w₁, hwarn, hsay⟩ := h
      obtain rfl := (runs_forM_say (f := fun id => ⟨.warn, notFoundText id⟩)).1 hwarn
      rw [runs_say.1 hsay, World.logged_logged]
      rfl
    · rintro rfl
      refine ⟨(), _, (runs_forM_say (f := fun id => ⟨.warn, notFoundText id⟩)).2 rfl,
        runs_say.2 ?_⟩
      rw [World.logged_logged]
      rfl

theorem not_fails_reportReconciled {r : Reconciled} {e : Abort} {w w' : World} :
    ¬ Fails (reportReconciled (m := StateM World) r) w e w' := by
  unfold reportReconciled
  split
  · exact not_fails_say
  · intro h
    rcases fails_bind.1 h with hwarn | ⟨_, _, _, hsay⟩
    · exact not_fails_forM_say (f := fun id => ⟨.warn, notFoundText id⟩) hwarn
    · exact not_fails_say hsay

theorem runs_computeCatalog {s : Settings} {previous : Option Catalog} {allow : Option AllowList}
    {stations : List Json.Value} {next : Catalog} {w w' : World} :
    Runs (computeCatalog (m := StateM World) s previous allow stations) w next w' ↔
      ∃ canonical, canonicalOf s.policy stations = .ok canonical ∧
        next = (reconcile s.types canonical.stations previous allow).catalog ∧
        w' = w.logged (computeLog stations canonical
          (reconcile s.types canonical.stations previous allow)) := by
  unfold computeCatalog
  rw [runs_say_bind]
  constructor
  · intro hrest
    obtain ⟨canonical, w₂, hcheck, hrest⟩ := runs_bind.1 hrest
    obtain ⟨hcanonical, rfl⟩ := runs_check.1 hcheck
    have hrest := runs_say_bind.1 hrest
    obtain ⟨_, w₄, hreport, hpure⟩ := runs_bind.1 hrest
    obtain rfl := runs_reportReconciled.1 hreport
    obtain ⟨rfl, rfl⟩ := runs_pure.1 hpure
    refine ⟨canonical, hcanonical, rfl, ?_⟩
    rw [World.logged_logged, World.logged_logged]
    rfl
  · intro h
    obtain ⟨canonical, hcanonical, rfl, rfl⟩ := h
    refine runs_bind.2 ⟨canonical, _, runs_check.2 ⟨hcanonical, rfl⟩,
      runs_say_bind.2 (runs_bind.2 ⟨(), _, runs_reportReconciled.2 rfl, runs_pure.2 ⟨rfl, ?_⟩⟩)⟩
    rw [World.logged_logged, World.logged_logged]
    rfl

/-- The stations fail at a station or at a number. -/
theorem canonicalOf_eq_error {policy : Policy} {stations : List Json.Value} {f : Failure}
    (h : canonicalOf policy stations = .error f) :
    (∃ se, f = .station se) ∨ ∃ ne, f = .number ne := by
  unfold canonicalOf at h
  cases hdecode : decodeStations stations with
  | error se =>
    rw [hdecode] at h
    cases h
    exact .inl ⟨se, rfl⟩
  | ok records =>
    rw [hdecode] at h
    cases hnumber : canonicalize policy records with
    | error ne =>
      simp only [Except.mapError, bind, Except.bind, hnumber] at h
      cases h
      exact .inr ⟨ne, rfl⟩
    | ok c =>
      simp only [Except.mapError, bind, Except.bind, hnumber] at h
      cases h

theorem fails_computeCatalog {s : Settings} {previous : Option Catalog}
    {allow : Option AllowList} {stations : List Json.Value} {e : Abort} {w w' : World}
    (h : Fails (computeCatalog (m := StateM World) s previous allow stations) w e w') :
    w'.disk = w.disk ∧ ((∃ se, e = .update (.station se)) ∨ ∃ ne, e = .update (.number ne)) := by
  unfold computeCatalog at h
  have hrest := fails_say_bind.1 h
  rcases fails_bind.1 hrest with hcheck | ⟨canonical, w₂, hcheck, hrest⟩
  · obtain ⟨f, hf, rfl, rfl⟩ := fails_check.1 hcheck
    refine ⟨rfl, ?_⟩
    rcases canonicalOf_eq_error hf with ⟨se, rfl⟩ | ⟨ne, rfl⟩
    · exact .inl ⟨se, rfl⟩
    · exact .inr ⟨ne, rfl⟩
  · rcases fails_bind.1 (fails_say_bind.1 hrest) with hreport | ⟨_, _, _, hpure⟩
    · exact absurd hreport not_fails_reportReconciled
    · exact absurd hpure not_fails_pure

/-! ## 3. Writing the results -/

/-- A write that is left out where no file is named. -/
def Saves (d : Disk) (file : Option String) (text : String) (d' : Disk) : Prop :=
  match file with
  | none => d' = d
  | some path => d.Replaces path text d'

/-- A write that fails leaves the disk as it was, but for the temporary name. -/
def Spared (d : Disk) (path : String) (d' : Disk) : Prop :=
  d' = d ∨ ∃ text, d.Withdraws path text d'

/-- The entry that announces a write. -/
def savingLog (text : String) (file : Option String) : List Log.Entry :=
  file.toList.map fun path => ⟨.info, text ++ path ++ "'"⟩

theorem spared_of_fails {path text : String} {e : Abort} {w w' : World}
    (h : Fails (writeText (m := StateM World) path text) w e w') :
    Unwritten path e ∧ Spared w.disk path w'.disk := by
  obtain ⟨he, rfl | ⟨d', hd', rfl⟩⟩ := fails_writeText h
  · exact ⟨he, .inl rfl⟩
  · exact ⟨he, .inr ⟨text, hd'⟩⟩

theorem runs_saveStations {stations : List Json.Value} {file : Option String} {u : Unit}
    {w w' : World} : Runs (saveStations (m := StateM World) stations file) w u w' ↔
      ∃ d', Saves w.disk file (snapshotText stations) d' ∧
        w' = (w.logged (savingLog "Saving HOMR stations to '" file)).on d' := by
  cases file with
  | none =>
    simp only [saveStations, Saves, savingLog, Option.toList, List.map_nil, World.logged_nil,
      exists_eq_left, World.on_disk]
    exact runs_pure.trans ⟨fun h => h.2, fun h => ⟨rfl, h⟩⟩
  | some path =>
    simp only [saveStations, Saves, savingLog, Option.toList, List.map_cons, List.map_nil]
    rw [runs_say_bind]
    exact runs_writeText

theorem fails_saveStations {stations : List Json.Value} {file : Option String} {e : Abort}
    {w w' : World} (h : Fails (saveStations (m := StateM World) stations file) w e w') :
    ∃ path, file = some path ∧ Unwritten path e ∧ Spared w.disk path w'.disk := by
  cases file with
  | none => exact absurd h not_fails_pure
  | some path =>
    unfold saveStations at h
    have hwrite := fails_say_bind.1 h
    obtain ⟨he, hspared⟩ := spared_of_fails hwrite
    exact ⟨path, rfl, he, hspared⟩

theorem runs_saveCatalog {path : String} {format : Format} {c : Catalog} {u : Unit}
    {w w' : World} : Runs (saveCatalog (m := StateM World) path format c) w u w' ↔
      ∃ text d', c.render format = .ok text ∧ w.disk.Replaces path text d' ∧
        w' = (w.logged (savingLog "Saving updated sites to '" (some path))).on d' := by
  unfold saveCatalog
  rw [runs_say_bind]
  constructor
  · intro hrest
    obtain ⟨text, w₂, hcheck, hwrite⟩ := runs_bind.1 hrest
    obtain ⟨hrender, rfl⟩ := runs_check.1 hcheck
    obtain ⟨d', hd', rfl⟩ := runs_writeText.1 hwrite
    exact ⟨text, d', hrender, hd', rfl⟩
  · intro h
    obtain ⟨text, d', hrender, hd', rfl⟩ := h
    exact runs_bind.2 ⟨text, _, runs_check.2 ⟨hrender, rfl⟩, runs_writeText.2 ⟨d', hd', rfl⟩⟩

theorem fails_saveCatalog {path : String} {format : Format} {c : Catalog} {e : Abort}
    {w w' : World} (h : Fails (saveCatalog (m := StateM World) path format c) w e w') :
    (∃ ce, c.render format = .error ce ∧ e = .update (.catalog ce) ∧ w'.disk = w.disk) ∨
      Unwritten path e ∧ Spared w.disk path w'.disk := by
  unfold saveCatalog at h
  have hrest := fails_say_bind.1 h
  rcases fails_bind.1 hrest with hcheck | ⟨text, w₂, hcheck, hwrite⟩
  · obtain ⟨ce, hrender, rfl, rfl⟩ := fails_check.1 hcheck
    exact .inl ⟨ce, hrender, rfl, rfl⟩
  · obtain ⟨_, rfl⟩ := runs_check.1 hcheck
    have hwrite := spared_of_fails hwrite
    exact .inr hwrite

theorem runs_saveCoordinates {c : Catalog} {file : Option String} {u : Unit} {w w' : World} :
    Runs (saveCoordinates (m := StateM World) c file) w u w' ↔
      ∃ text d', (file.isSome = true → c.coordinates = .ok text) ∧ Saves w.disk file text d' ∧
        w' = (w.logged (savingLog "Saving coordinates to '" file)).on d' := by
  cases file with
  | none =>
    simp only [saveCoordinates, Saves, savingLog, Option.toList, List.map_nil, World.logged_nil,
      Option.isSome_none, Bool.false_eq_true, false_imp_iff, true_and, exists_eq_left,
      World.on_disk]
    rw [runs_pure]
    constructor
    · intro h
      exact ⟨"", h.2⟩
    · intro h
      obtain ⟨_, hw⟩ := h
      exact ⟨rfl, hw⟩
  | some path =>
    simp only [saveCoordinates, Saves, savingLog, Option.toList, List.map_cons, List.map_nil,
      Option.isSome_some, true_imp_iff]
    rw [runs_say_bind]
    constructor
    · intro hrest
      obtain ⟨text, w₂, hcheck, hwrite⟩ := runs_bind.1 hrest
      obtain ⟨hcoordinates, rfl⟩ := runs_check.1 hcheck
      obtain ⟨d', hd', rfl⟩ := runs_writeText.1 hwrite
      exact ⟨text, d', hcoordinates, hd', rfl⟩
    · intro h
      obtain ⟨text, d', hcoordinates, hd', rfl⟩ := h
      exact runs_bind.2 ⟨text, _, runs_check.2 ⟨hcoordinates, rfl⟩,
        runs_writeText.2 ⟨d', hd', rfl⟩⟩

theorem fails_saveCoordinates {c : Catalog} {file : Option String} {e : Abort} {w w' : World}
    (h : Fails (saveCoordinates (m := StateM World) c file) w e w') :
    ∃ path, file = some path ∧
      ((∃ ce, c.coordinates = .error ce ∧ e = .update (.coordinate ce) ∧ w'.disk = w.disk) ∨
        Unwritten path e ∧ Spared w.disk path w'.disk) := by
  cases file with
  | none => exact absurd h not_fails_pure
  | some path =>
    refine ⟨path, rfl, ?_⟩
    unfold saveCoordinates at h
    have hrest := fails_say_bind.1 h
    rcases fails_bind.1 hrest with hcheck | ⟨text, w₂, hcheck, hwrite⟩
    · obtain ⟨ce, hcoordinates, rfl, rfl⟩ := fails_check.1 hcheck
      exact .inl ⟨ce, hcoordinates, rfl, rfl⟩
    · obtain ⟨_, rfl⟩ := runs_check.1 hcheck
      have hwrite := spared_of_fails hwrite
      exact .inr hwrite

def verifyLog (path : String) (wanted : Bool) : List Log.Entry :=
  if wanted then [⟨.info, "Verifying '" ++ path ++ "'"⟩] else []

theorem runs_verifyCatalog {path : String} {c : Catalog} {wanted : Bool} {u : Unit}
    {w w' : World} : Runs (verifyCatalog (m := StateM World) path c wanted) w u w' ↔
      (wanted = true → ∃ text, w.disk.read path = .ok (.text text) ∧ verify text c = .ok ()) ∧
        w' = w.logged (verifyLog path wanted) := by
  cases wanted with
  | false =>
    simp only [verifyCatalog, verifyLog, Bool.false_eq_true, if_false, false_imp_iff, true_and,
      World.logged_nil]
    exact runs_pure.trans ⟨fun h => h.2, fun h => ⟨rfl, h⟩⟩
  | true =>
    simp only [verifyCatalog, verifyLog, if_true, true_imp_iff]
    rw [runs_say_bind]
    constructor
    · intro hrest
      obtain ⟨text, w₂, hread, hcheck⟩ := runs_bind.1 hrest
      obtain ⟨htext, rfl⟩ := runs_readText.1 hread
      obtain ⟨hverify, rfl⟩ := runs_check.1 hcheck
      exact ⟨⟨text, htext, hverify⟩, rfl⟩
    · intro h
      obtain ⟨⟨text, htext, hverify⟩, rfl⟩ := h
      exact runs_bind.2 ⟨text, _, runs_readText.2 ⟨htext, rfl⟩, runs_check.2 ⟨hverify, rfl⟩⟩

theorem fails_verifyCatalog {path : String} {c : Catalog} {wanted : Bool} {e : Abort}
    {w w' : World} (h : Fails (verifyCatalog (m := StateM World) path c wanted) w e w') :
    wanted = true ∧ w'.disk = w.disk ∧
      ((∃ cause, e = .update (.read path cause)) ∧
          (∀ text, w.disk.read path ≠ .ok (.text text)) ∨
        ∃ text ve, w.disk.read path = .ok (.text text) ∧ verify text c = .error ve ∧
          e = .update (.verification ve)) := by
  cases wanted with
  | false => exact absurd h not_fails_pure
  | true =>
    simp only [verifyCatalog, if_true] at h
    have hrest := fails_say_bind.1 h
    rcases fails_bind.1 hrest with hread | ⟨text, w₂, hread, hcheck⟩
    · obtain ⟨he, rfl, hnot⟩ := fails_readText hread
      exact ⟨rfl, rfl, .inl ⟨he, hnot⟩⟩
    · obtain ⟨htext, rfl⟩ := runs_readText.1 hread
      obtain ⟨ve, hverify, rfl, rfl⟩ := fails_check.1 hcheck
      exact ⟨rfl, rfl, .inr ⟨text, ve, htext, hverify, rfl⟩⟩

end RadarCatalog.Command
