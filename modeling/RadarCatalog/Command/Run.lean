import RadarCatalog.Command.Abort
import RadarCatalog.Command.Options
import RadarCatalog.Log.Filter
import RadarCatalog.Update.Host
import RadarCatalog.Update.Revision

/-!
# Running commands

The two commands as programs over a host.

* A file is written under a temporary name and then renamed, so its place holds the old content or
  the whole new one.
* `update` reads all its inputs first, saves the snapshot if asked to, and only then works on the
  stations; the catalog is rendered as a whole before it is written, and written before the
  coordinate listing and the verification.
* The station values come from a file, or from the registry: one search for each platform in order,
  and none is left out. The first search that fails ends the update.
* `execute` loads the settings before either command. A settings file that is named has to be
  there; the standard one is optional.
-/

namespace RadarCatalog.Command

open RadarCatalog.Catalog RadarCatalog.Files RadarCatalog.Registry RadarCatalog.Update

variable {m : Type → Type} [Monad m] [Host m] (web : Web m)

/-- A part of a command, which may fail. -/
abbrev Task (m : Type → Type) := ExceptT Abort m

/-! ## 1. Files and the log -/

/-- Adds a message to the log. -/
def say (level : Log.Level) (message : String) : Task m Unit :=
  ExceptT.lift (Host.log ⟨level, message⟩)

/-- A result that a part of the program gives, as a part of a command. -/
def check {α ε : Type} (abort : ε → Abort) : Except ε α → Task m α
  | .ok a => return a
  | .error e => throw (abort e)

/-- The text of a file. -/
def readText (path : String) : Task m String := do
  match ← ExceptT.lift (Host.read path) with
  | .ok (.text s) => return s
  | .ok (.binary _) => throw (.update (.read path Fault.notText.message))
  | .error e => throw (.update (.read path e.message))

/-- Gives a file another text, all at once. -/
def writeText (path text : String) : Task m Unit := do
  match ← ExceptT.lift (Host.write (temporary path) text) with
  | .error e => throw (.update (.write (temporary path) e.message))
  | .ok _ =>
    match ← ExceptT.lift (Host.rename (temporary path) path) with
    | .ok _ => return ()
    | .error e =>
      ExceptT.lift (Host.remove (temporary path))
      throw (.update (.write path e.message))

/-- The catalog of a file. -/
def readCatalog (path : String) : Task m Catalog := do
  check (fun e => .update (.catalog e)) (Catalog.parse (← readText path))

/-! ## 2. Updating -/

/-- The previous catalog, where there is a current file. -/
def readPrevious : Option String → Task m (Option Catalog)
  | none => return none
  | some path => do
    say .info ("Reading current sites from '" ++ path ++ "'")
    return some (← readCatalog path)

/-- The allow-list, where there is one. -/
def readAllowList (sentinel : String) : Option String → Task m (Option AllowList)
  | none => return none
  | some path => do
    say .info ("Reading stations to update from '" ++ path ++ "'")
    let list := AllowList.parse sentinel (← readText path)
    say .debug (toString list.size ++ " stations allowed a full update")
    return some list

/-- The station values of a platform. -/
def searchPlatform (baseUrl : String) (currentOnly : Bool) (platform : String) :
    Task m (List Json.Value) := do
  let reply ← ExceptT.lift (web.get (.ofPlatform baseUrl currentOnly platform))
  check .search (stationsOfReply platform reply)

/-- The station values of some platforms, one platform after the other. -/
def searchAll (baseUrl : String) (currentOnly : Bool) : List String → Task m (List Json.Value)
  | [] => return []
  | platform :: platforms => do
    say .info ("Getting " ++ platform ++ " stations")
    let batch ← searchPlatform web baseUrl currentOnly platform
    say .debug (toString batch.length ++ " " ++ platform ++ " stations")
    return batch ++ (← searchAll baseUrl currentOnly platforms)

/-- The station values that the registry has. -/
def fetchStations (s : RegistrySettings) (platforms : List String) (currentOnly : Bool) :
    Task m (List Json.Value) := do
  match ← ExceptT.lift (web.client userAgent s.timeoutSeconds) with
  | .error cause => throw (.search (.noClient cause))
  | .ok _ => searchAll web s.baseUrl currentOnly platforms

/-- The station values: those of the input file, or those of the registry. -/
def loadStations (s : Settings) (r : UpdateRequest) : Task m (List Json.Value) :=
  match r.inputFile with
  | some path => do
    say .info ("Reading HOMR stations from '" ++ path ++ "'")
    check (fun e => .update (.snapshotText e)) (readSnapshot (← readText path))
  | none => fetchStations web s.registry (s.query r.moreRadars) r.currentOnly

/-- Saves the station values, where a file is named. -/
def saveStations (stations : List Json.Value) : Option String → Task m Unit
  | none => return ()
  | some path => do
    say .info ("Saving HOMR stations to '" ++ path ++ "'")
    writeText path (snapshotText stations)

/-- Logs what the reduction to canonical stations gave. -/
def reportCanonical (c : Canonical) : Task m Unit :=
  say .debug (toString c.stations.size ++ " canonical stations (" ++
    toString c.duplicatesDropped ++ " duplicates dropped, " ++ toString c.unidentified ++
    " without a ranked identifier)")

/-- Logs what the merge gave, or that there was none. -/
def reportReconciled (r : Reconciled) : Task m Unit :=
  match r.merge with
  | none => say .info "No current catalog, building one from HOMR stations"
  | some merge => do
    merge.notFound.forM fun id => say .warn (notFoundText id)
    say .info (toString merge.catalog.size ++ " stations: " ++
      toString merge.summary.fullUpdates ++ " full updates, " ++
      toString merge.summary.elevationOnly ++ " elevation only, " ++
      toString merge.summary.notFound ++ " not found")

/-- Writes the catalog. -/
def saveCatalog (path : String) (format : Format) (c : Catalog) : Task m Unit := do
  say .info ("Saving updated sites to '" ++ path ++ "'")
  writeText path (← check (fun e => .update (.catalog e)) (c.render format))

/-- Writes the coordinate listing, where a file is named. -/
def saveCoordinates (c : Catalog) : Option String → Task m Unit
  | none => return ()
  | some path => do
    say .info ("Saving coordinates to '" ++ path ++ "'")
    writeText path (← check (fun e => .update (.coordinate e)) c.coordinates)

/-- Reads the catalog back, where that is asked for. -/
def verifyCatalog (path : String) (c : Catalog) (wanted : Bool) : Task m Unit := do
  if wanted then
    say .info ("Verifying '" ++ path ++ "'")
    check (fun e => .update (.verification e)) (verify (← readText path) c)

/-- The reminder that is logged on demand. -/
def reminder : String :=
  "Station coordinates may have changed; " ++
    "unit tests that pin radar site positions may need updating"

/-- The work on the stations, up to the next catalog. -/
def computeCatalog (s : Settings) (previous : Option Catalog) (allow : Option AllowList)
    (stations : List Json.Value) : Task m Catalog := do
  say .info ("Processing " ++ toString stations.length ++ " HOMR stations")
  let canonical ← check .update (canonicalOf s.policy stations)
  reportCanonical canonical
  let reconciled := reconcile s.types canonical.stations previous allow
  reportReconciled reconciled
  return reconciled.catalog

/-- An update with the station values that a task brings. -/
def updateFrom (load : Task m (List Json.Value)) (s : Settings) (r : UpdateRequest) :
    Task m Unit := do
  match r.updatedFile.or r.currentFile with
  | none => throw .noTarget
  | some target =>
    let previous ← readPrevious r.currentFile
    let allow ← readAllowList s.sentinel r.allowFile
    if allow.isSome && previous.isNone then
      say .warn "--to-update-csv has no effect without --current-file"
    let stations ← load
    saveStations stations r.snapshotFile
    let next ← computeCatalog s previous allow stations
    saveCatalog target (if r.plain then .plain else .aligned) next
    saveCoordinates next r.coordFile
    verifyCatalog target next r.verify
    if r.remind then say .warn reminder

/-- The command `update`. -/
def update (s : Settings) (r : UpdateRequest) : Task m Unit :=
  updateFrom (loadStations web s r) s r

/-! ## 3. Listing coordinates -/

/-- The command `coords`. -/
def coords (r : CoordsRequest) : Task m Unit := do
  let catalog ← readCatalog r.catalog
  let text ← check (fun e => .update (.coordinate e)) catalog.coordinates
  match r.output with
  | some path => writeText path text
  | none =>
    match ← ExceptT.lift (Host.print text) with
    | .ok _ => return ()
    | .error e => throw (.unprinted e.message)

/-! ## 4. Settings and the whole program -/

/-- What the program takes from its environment: the home directory, the directory of settings if
    there is one, the settings file if one is named, the log filter and the style of the log if
    there are any, and whether colours are refused or insisted on. -/
structure Environment where
  home : String
  settingsHome : Option String
  settingsFile : Option String
  logFilter : Option String
  logStyle : Option String
  coloursRefused : Bool
  coloursInsisted : Bool
deriving DecidableEq, Inhabited

/-- The lines of the log have colours. -/
def Environment.hasColours (e : Environment) : Bool :=
  Log.hasColours e.logStyle e.coloursRefused e.coloursInsisted

/-- The settings file that is read unless another one is named. -/
def Environment.standardFile (e : Environment) : String :=
  let base := match e.settingsHome with
    | some directory =>
      if (Path.ofString directory).absolute then directory else join e.home ".config"
    | none => join e.home ".config"
  join (join base "radar-sites") "settings.toml"

/-- The settings of a file. -/
def readSettings (path : String) : Task m Settings := do
  match ← ExceptT.lift (Host.read path) with
  | .error e => throw (.settingsUnread path e.message)
  | .ok (.binary _) => throw (.settingsUnread path Fault.notText.message)
  | .ok (.text s) =>
    match Settings.parse s with
    | .ok settings => return settings
    | .error .form => throw (.settingsForm path)
    | .error (.defect d) => throw (.settingsDefect d)

/-- The settings of the named file, or of the standard one if it is there. -/
def loadSettings (standardFile : String) : Option String → Task m Settings
  | some path => readSettings path
  | none => do
    if ← ExceptT.lift (Host.isPresent standardFile) then readSettings standardFile
    else return Settings.standard

/-- Loads the settings and runs the command. -/
def execute (standardFile : String) (c : CommandLine) : Task m Unit := do
  let settings ← loadSettings standardFile c.settingsFile
  match c.request with
  | .update r => update web settings r
  | .coords r => coords r

/-- The part of the program that the log names as its source. -/
def logSource : String := "radar_sites::update"

/-- The log filter: that of the environment, or the level that the command line asks for. -/
def logFilter (e : Environment) (c : CommandLine) : Log.Filter × List String :=
  Log.Filter.ofText (e.logFilter.getD
    (if c.quiet then "warn"
      else match c.verbosity with
        | 0 => "info"
        | 1 => "debug"
        | _ => "trace"))

end RadarCatalog.Command
