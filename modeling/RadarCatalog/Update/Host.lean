import RadarCatalog.Files.Disk
import RadarCatalog.Log.Level
import RadarCatalog.Registry.Search

/-!
# Where an update runs

`Host` lists what a run asks of its surroundings: files, the log, and the standard output. `World`
is a host that is plain data, so that what a run does to its files is a statement about values.

`Web` is the way to the registry service. A run takes it as an argument: the service and the web
client are no part of the program, and any answer is possible.
-/

namespace RadarCatalog.Update

open RadarCatalog.Files RadarCatalog.Registry

/-- What a run asks of its surroundings. -/
class Host (m : Type → Type) where
  /-- What the file of a path name holds. -/
  read : String → m (Except Fault Content)
  /-- Something stands at a path name. -/
  isPresent : String → m Bool
  /-- Writes a text to the file of a path name. -/
  write : String → String → m (Except Fault Unit)
  /-- Gives the file of the first path name the second one. -/
  rename : String → String → m (Except Fault Unit)
  /-- Removes the file of a path name. -/
  remove : String → m Unit
  /-- Adds an entry to the log. -/
  log : Log.Entry → m Unit
  /-- Prints a text to the standard output. -/
  print : String → m (Except Fault Unit)

/-- The way to the registry service. -/
structure Web (m : Type → Type) where
  /-- Makes a client with a name that waits so many seconds for an answer. -/
  client : String → Nat → m (Except String Unit)
  /-- Sends a request, and waits for the answer. -/
  get : Query → m (Except Unanswered Answer)

/-- No way to the service: there is no client. -/
def Web.absent {m : Type → Type} [Monad m] : Web m where
  client _ _ := return .error "there is none"
  get _ := return .error (.failed "there is no client")

/-- A disk with what was logged and printed so far. -/
structure World where
  disk : Disk
  journal : List Log.Entry
  printed : String
deriving DecidableEq

/-- Changes the disk, or leaves it as it is where that fails. -/
def World.change (w : World) (change : Disk → Except Fault Disk) : Except Fault Unit × World :=
  match change w.disk with
  | .ok disk => (.ok (), { w with disk := disk })
  | .error e => (.error e, w)

instance : Host (StateM World) where
  read path := fun w => (w.disk.read path, w)
  isPresent path := fun w => (w.disk.isPresent path, w)
  write path text := fun w => w.change fun d => d.write path text
  rename source target := fun w => w.change fun d => d.rename source target
  remove path := fun w => ((), { w with disk := w.disk.remove path })
  log e := fun w => ((), { w with journal := w.journal ++ [e] })
  print text := fun w => (.ok (), { w with printed := w.printed ++ text })

end RadarCatalog.Update
