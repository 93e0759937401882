import RadarCatalog.Command.Run
import RadarCatalog.Text.Lines

/-!
# Transcripts

A transcript is what a run of the program leaves, on a disk that is plain data: the exit code, the
standard output, the lines of the standard error, and the disk.
-/

namespace RadarCatalog.Command

open RadarCatalog.Files RadarCatalog.Update

variable (web : Web (StateM World))

/-- What a run leaves. A run that ends in a summary of the usage has no lines of its own. -/
structure Transcript where
  code : Nat
  usage : Bool
  output : String
  lines : List String
  disk : Disk
deriving DecidableEq

/-- The name and version of the program. -/
def versionText : String := "radar-sites 0.1.0\n"

/-- The texts of the log that pass a filter. -/
def logTexts (filter : Log.Filter) (hasColours : Bool) (journal : List Log.Entry) : List String :=
  (journal.filter (filter.passes logSource)).map (Log.Entry.text hasColours)

/-- The run of a command line. -/
def transcribeCommand (e : Environment) (c : CommandLine) (disk : Disk) : Transcript :=
  let (filter, warnings) := logFilter e c
  let (result, world) := (execute web e.standardFile c).run ⟨disk, [], ""⟩
  let (code, report) := match result with
    | .ok _ => (0, [])
    | .error a => (a.code, a.report e.standardFile)
  let texts := warnings.map (· ++ "\n") ++ logTexts filter e.hasColours world.journal ++
    report.map (· ++ "\n")
  ⟨code, false, world.printed, (Text.linesOf (String.join texts).toList).map String.ofList,
    world.disk⟩

/-- The run of the program on some words. -/
def transcribeOn (e : Environment) (words : List String) (disk : Disk) : Transcript :=
  match readCommandLine e.settingsFile words with
  | .ok c => transcribeCommand web e c disk
  | .error .mistake => ⟨2, true, "", [], disk⟩
  | .error .help => ⟨0, true, "", [], disk⟩
  | .error .version => ⟨0, false, versionText, [], disk⟩

/-- The run of the program on some words where there is no way to the registry. -/
def transcribe : Environment → List String → Disk → Transcript := transcribeOn .absent

end RadarCatalog.Command
