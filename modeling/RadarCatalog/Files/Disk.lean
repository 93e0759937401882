import RadarCatalog.Files.Path

/-!
# Files and directories

A model of the part of a file system that the updater sees: what stands at each location, and the
directory in which path names start. Reading, writing, renaming and removing go by path names and
fail with a `Fault` as a system does.

* A location is the list of names from the root; no name in it is a dot or two.
* A write needs the directory it writes in, and a file or nothing at the place itself.
* A rename replaces a file in one step and replaces no directory.
* `Disk.lookup?_put` and `Disk.lookup?_erase`: a change at one location is seen there and nowhere
  else.

The model takes some things for granted, and so does every statement about a disk:

* there are no links, symbolic or hard, so that a file has one location, and two names are the same
  only if they are spelled the same;
* nobody else changes a file while the program runs;
* a write takes place as a whole or not at all, and never fails for want of room or of a permission;
* a rename replaces a file in one step, and a file that is there can be removed.
-/

namespace RadarCatalog.Files

/-! ## 1. Faults -/

/-- Why an operation on a file fails. -/
inductive Fault where
  | notFound
  | notDirectory
  | isDirectory
  | busy
  | nameTooLong
  | notText
  | other (text : String)
deriving DecidableEq

/-- The wording of a fault. -/
def Fault.message : Fault → String
  | .notFound => "No such file or directory (os error 2)"
  | .notDirectory => "Not a directory (os error 20)"
  | .isDirectory => "Is a directory (os error 21)"
  | .busy => "Device or resource busy (os error 16)"
  | .nameTooLong => "File name too long (os error 36)"
  | .notText => "stream did not contain valid UTF-8"
  | .other text => text

/-! ## 2. The model -/

/-- What a file holds: a text, or bytes that are none. -/
inductive Content where
  | text (s : String)
  | binary (bytes : List UInt8)
deriving DecidableEq

/-- The content that some bytes are. -/
def Content.ofBytes (bytes : ByteArray) : Content :=
  match String.fromUTF8? bytes with
  | some s => .text s
  | none => .binary bytes.toList

/-- What stands at a location. -/
inductive Entry where
  | directory
  | file (content : Content)
deriving DecidableEq

/-- The names from the root down. -/
abbrev Location := List String

/-- The locations where something stands, and the directory where path names start. The root is
    there without being listed. -/
structure Disk where
  entries : List (Location × Entry)
  start : Location
deriving DecidableEq

/-- What a list of entries has at a location. -/
def findEntry : List (Location × Entry) → Location → Option Entry
  | [], _ => none
  | (at_, entry) :: rest, location => if at_ = location then some entry else findEntry rest location

/-- A list of entries with an entry at a location. -/
def putEntry (location : Location) (entry : Entry) :
    List (Location × Entry) → List (Location × Entry)
  | [] => [(location, entry)]
  | (at_, old) :: rest =>
    if at_ = location then (location, entry) :: rest
    else (at_, old) :: putEntry location entry rest

theorem findEntry_putEntry (entries : List (Location × Entry)) (location other : Location)
    (entry : Entry) :
    findEntry (putEntry location entry entries) other =
      if location = other then some entry else findEntry entries other := by
  induction entries with
  | nil => simp [putEntry, findEntry]
  | cons e entries ih =>
    obtain ⟨at_, old⟩ := e
    by_cases h : at_ = location
    · subst h
      by_cases h' : at_ = other <;> simp [putEntry, findEntry, h']
    · by_cases h' : at_ = other
      · subst h'
        simp [putEntry, findEntry, h, Ne.symm h]
      · simp [putEntry, findEntry, h, h', ih]

theorem findEntry_filter (entries : List (Location × Entry)) (location other : Location) :
    findEntry (entries.filter fun e => e.1 ≠ location) other =
      if location = other then none else findEntry entries other := by
  induction entries with
  | nil => simp [findEntry]
  | cons e entries ih =>
    obtain ⟨at_, old⟩ := e
    by_cases h : at_ = location
    · subst h
      by_cases h' : at_ = other <;> simp_all [findEntry]
    · by_cases h' : at_ = other
      · subst h'
        simp [findEntry, h, Ne.symm h]
      · simp [findEntry, h, h'] at ih ⊢
        exact ih

namespace Disk

/-- What stands at a location. -/
def lookup? (d : Disk) (location : Location) : Option Entry :=
  if location = [] then some .directory else findEntry d.entries location

/-- Puts an entry at a location. -/
def put (d : Disk) (location : Location) (entry : Entry) : Disk :=
  { d with entries := putEntry location entry d.entries }

/-- Takes away what stands at a location. -/
def erase (d : Disk) (location : Location) : Disk :=
  { d with entries := d.entries.filter fun e => e.1 ≠ location }

/-- A put changes what stands at its own location and nowhere else. -/
theorem lookup?_put {d : Disk} {location : Location} (h : location ≠ []) (entry : Entry)
    (other : Location) :
    (d.put location entry).lookup? other =
      if location = other then some entry else d.lookup? other := by
  by_cases h' : other = []
  · subst h'
    simp [lookup?, h]
  · simp [lookup?, put, h', findEntry_putEntry]

/-- An erasure changes what stands at its own location and nowhere else. -/
theorem lookup?_erase {d : Disk} {location : Location} (h : location ≠ []) (other : Location) :
    (d.erase location).lookup? other = if location = other then none else d.lookup? other := by
  by_cases h' : other = []
  · subst h'
    simp [lookup?, h]
  · have := findEntry_filter d.entries location other
    simp_all [lookup?, erase]

/-! ## 3. Path names -/

/-- The directory that is reached from another one by the parts of a path. -/
def walk (d : Disk) : Location → List Part → Except Fault Location
  | here, [] => .ok here
  | here, .here :: parts => d.walk here parts
  | here, .above :: parts => d.walk here.dropLast parts
  | here, .name n :: parts =>
    if 255 < n.utf8ByteSize then .error .nameTooLong
    else
      match d.lookup? (here ++ [n]) with
      | some .directory => d.walk (here ++ [n]) parts
      | some (.file _) => .error .notDirectory
      | none => .error .notFound

/-- The location of a path name, whether or not something stands there. -/
def locate (d : Disk) (path : String) : Except Fault Location :=
  let p := Path.ofString path
  if 4096 ≤ path.utf8ByteSize then .error .nameTooLong
  else match d.walk (if p.absolute then [] else d.start) p.way with
  | .error e => .error e
  | .ok here =>
    match p.last with
    | .here => .ok here
    | .above => .ok here.dropLast
    | .name n => if 255 < n.utf8ByteSize then .error .nameTooLong else .ok (here ++ [n])

/-- Something stands at the path name. -/
def isPresent (d : Disk) (path : String) : Bool :=
  match d.locate path with
  | .ok location => (d.lookup? location).isSome
  | .error _ => false

/-! ## 4. Operations -/

/-- What a file holds. -/
def read (d : Disk) (path : String) : Except Fault Content := do
  match d.lookup? (← d.locate path) with
  | some (.file content) => .ok content
  | some .directory => .error .isDirectory
  | none => .error .notFound

/-- Writes a text to a file, in place of what it held. -/
def write (d : Disk) (path text : String) : Except Fault Disk := do
  let location ← d.locate path
  match d.lookup? location with
  | some .directory => .error .isDirectory
  | _ => .ok (d.put location (.file (.text text)))

/-- Gives a file another name, in place of a file of that name. -/
def rename (d : Disk) (source target : String) : Except Fault Disk := do
  let from_ ← d.locate source
  let to_ ← d.locate target
  match d.lookup? from_ with
  | none => .error .notFound
  | some entry =>
    if endsInDots target then .error .busy
    else if endsInSlash target then .error .notDirectory
    else if d.lookup? to_ = some .directory then .error .isDirectory
    else .ok ((d.erase from_).put to_ entry)

/-- Removes a file; a path name that leads to none changes nothing. -/
def remove (d : Disk) (path : String) : Disk :=
  match d.locate path with
  | .ok location =>
    match d.lookup? location with
    | some (.file _) => d.erase location
    | _ => d
  | .error _ => d

end Disk

end RadarCatalog.Files
