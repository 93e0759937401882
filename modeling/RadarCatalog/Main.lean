import RadarCatalog.Command.Transcript

/-!
# The program

The outer layer: the commands over the files, the log and the output of the system.
-/

namespace RadarCatalog

open RadarCatalog.Files RadarCatalog.Update

/-- The number of a fault of the system, which some calls give below zero. -/
def faultNumber (code : UInt32) : UInt32 := if code < 0x80000000 then code else 0 - code

/-- A fault of the system; one without a name here stays in the system's words. -/
def systemFault : IO.Error → Fault
  | .noFileOrDirectory _ _ _ => .notFound
  | .resourceBusy _ _ => .busy
  | .inappropriateType _ code _ => if faultNumber code = 21 then .isDirectory else .notDirectory
  | .invalidArgument name code details =>
    if faultNumber code = 36 then .nameTooLong
    else .other (IO.Error.invalidArgument name code details).toString
  | e => .other e.toString

/-- The filter of the log, and whether its lines have colours. -/
structure LogSettings where
  filter : Log.Filter
  hasColours : Bool

/-- An action on files, with its fault as a result. -/
def attempt {α : Type} (action : IO α) : ReaderT LogSettings IO (Except Fault α) := do
  match ← action.toBaseIO with
  | .ok a => return .ok a
  | .error e => return .error (systemFault e)

instance : Host (ReaderT LogSettings IO) where
  read path := attempt do return Content.ofBytes (← IO.FS.readBinFile path)
  isPresent path := do
    match ← attempt (IO.FS.Handle.mk path .read) with
    | .ok _ => return true
    | .error _ => return false
  write path text := attempt (IO.FS.writeFile path text)
  rename source target := attempt (IO.FS.rename source target)
  remove path := do
    let _ ← attempt (IO.FS.removeFile path)
  log e := do
    let settings ← read
    if settings.filter.passes Command.logSource e then
      IO.eprint (e.text settings.hasColours)
  print text := attempt do
    let out ← IO.getStdout
    out.putStr text
    out.flush

/-- The way to the registry. This layer has no web client, so a run that wants one fails. -/
def systemWeb : Web (ReaderT LogSettings IO) := .absent

/-- The environment of the program. -/
def systemEnvironment : IO Command.Environment := do
  return {
    home := ((← IO.getEnv "HOME").filter (· ≠ "")).getD "."
    settingsHome := ← IO.getEnv "XDG_CONFIG_HOME"
    settingsFile := ← IO.getEnv "RADAR_SITES_CONFIG"
    logFilter := ← IO.getEnv "RUST_LOG"
    logStyle := ← IO.getEnv "RUST_LOG_STYLE"
    coloursRefused := ((← IO.getEnv "NO_COLOR").getD "") ≠ ""
    coloursInsisted := ((← IO.getEnv "CLICOLOR_FORCE").getD "") ≠ "" }

/-- The summary of the usage. -/
def usageText : String :=
  "Usage: radar-sites [OPTIONS] update [-u FILE] [-o FILE] [-i FILE] [-U FILE] [-c FILE] " ++
    "[-r FILE] [-t] [-j] [-m] [-C] [-w]\n       radar-sites [OPTIONS] coords CATALOG [-o FILE]"

/-- Runs a command line and gives the exit code. -/
def runCommand (e : Command.Environment) (c : Command.CommandLine) : IO UInt32 := do
  let (filter, warnings) := Command.logFilter e c
  warnings.forM IO.eprintln
  let settings : LogSettings := ⟨filter, e.hasColours⟩
  match ← (Command.execute systemWeb e.standardFile c).run.run settings with
  | .ok _ => return 0
  | .error a =>
    (a.report e.standardFile).forM IO.eprintln
    return a.code.toUInt32

end RadarCatalog

/-- Reads the command line and runs it. -/
def main (words : List String) : IO UInt32 := do
  let e ← RadarCatalog.systemEnvironment
  match RadarCatalog.Command.readCommandLine e.settingsFile words with
  | .ok c => RadarCatalog.runCommand e c
  | .error .mistake =>
    IO.eprintln RadarCatalog.usageText
    return 2
  | .error .help =>
    IO.println RadarCatalog.usageText
    return 0
  | .error .version =>
    IO.print RadarCatalog.Command.versionText
    return 0
