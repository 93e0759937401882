import RadarCatalog.Registry.Search
import RadarCatalog.Settings
import RadarCatalog.Update.Failure

/-!
# How a command ends

A command that fails does so with an exit code, which scripts rely on, a message, and sometimes a
hint.

| code | meaning |
|---|---|
| 0 | success |
| 1 | a file cannot be written, or a coordinate is not a number |
| 2 | wrong usage, or an input file that cannot be used |
| 3 | the records of the catalog do not list the same keys |
| 4 | the written catalog is not the computed one |
| 5 | the registry gives no stations |
| 6 | unusable settings, or unusable station values |

The messages are those of the program, with three parts left out: what a TOML reader says about a
text, the line and column of a JSON error, and any wording of the system that has no name here. A
search of the registry fails in the words of the web client, which come with the fault.
-/

namespace RadarCatalog.Command

open RadarCatalog.Registry RadarCatalog.Update

/-- Why a command fails. -/
inductive Abort where
  | noTarget
  | settingsUnread (path cause : String)
  | settingsForm (path : String)
  | settingsDefect (d : Settings.Defect)
  | search (e : SearchError)
  | unprinted (cause : String)
  | update (f : Failure)
deriving DecidableEq

/-- The exit code of a failed update. -/
def failureCode (f : Failure) : Nat :=
  if f.isInconsistentSchema then 3
  else
    match f with
    | .verification _ => 4
    | .read _ _ | .catalog _ | .snapshotText _ => 2
    | .number _ | .station _ => 6
    | .write _ _ | .coordinate _ => 1

/-- The exit code. -/
def Abort.code : Abort → Nat
  | .noTarget => 2
  | .settingsUnread _ _ | .settingsForm _ | .settingsDefect _ => 6
  | .search _ => 5
  | .unprinted _ => 1
  | .update f => failureCode f

/-- The message. -/
def Abort.message : Abort → String
  | .noTarget => "no catalog to write"
  | .settingsUnread path cause => "cannot read settings " ++ path ++ ": " ++ cause
  | .settingsForm path => "invalid settings " ++ path ++ ": TOML parse error"
  | .settingsDefect d => "invalid settings: " ++ d.message
  | .search e => e.message
  | .unprinted cause => "cannot write to stdout: " ++ cause
  | .update f => f.message

/-- The hint on a failed update. -/
def failureHint (f : Failure) : Option String :=
  if f.isInconsistentSchema then
    some "every record must list the same keys in the same order; nothing was written"
  else
    match f with
    | .verification _ => some "the catalog on disk does not match what was computed"
    | _ => none

/-- The hint; `standardFile` is the settings file that is read unless another one is named. -/
def Abort.hint (standardFile : String) : Abort → Option String
  | .noTarget => some "pass --current-file, --updated-file, or both"
  | .settingsForm _ | .settingsDefect _ => some ("see " ++ standardFile ++ " for the defaults")
  | .settingsUnread _ _ | .unprinted _ => none
  | .search e => e.hint
  | .update f => failureHint f

/-- The lines that report a failure. -/
def Abort.report (standardFile : String) (a : Abort) : List String :=
  ("error: " ++ a.message) :: (a.hint standardFile).toList.map ("hint:  " ++ ·)

end RadarCatalog.Command
