/-!
# Path names

A path name is cut at its slashes. Empty parts and single dots stand for the directory they are
in, two dots for the one above it, and a slash in front for the root.
-/

namespace RadarCatalog.Files

/-- The parts of a path name, without the slashes. -/
def splitParts : List Char → List (List Char)
  | [] => [[]]
  | c :: cs =>
    if c = '/' then [] :: splitParts cs
    else
      match splitParts cs with
      | [] => [[c]]
      | part :: parts => (c :: part) :: parts

/-- A part of a path name with a meaning. -/
inductive Part where
  | here
  | above
  | name (s : String)
deriving DecidableEq

/-- What a part stands for. -/
def Part.ofChars : List Char → Part
  | [] | ['.'] => .here
  | ['.', '.'] => .above
  | cs => .name (String.ofList cs)

/-- A path name taken apart: whether it starts at the root, the directories on the way, and the
    last part. -/
structure Path where
  absolute : Bool
  way : List Part
  last : Part
deriving DecidableEq

/-- Takes a path name apart. -/
def Path.ofString (s : String) : Path :=
  let cs := s.toList
  let parts := (splitParts cs).map Part.ofChars
  ⟨cs.head? = some '/', parts.dropLast, parts.getLast?.getD .here⟩

/-- The path name has a slash at its end, or is one. -/
def endsInSlash (s : String) : Bool := s.toList.getLast? = some '/'

/-- The last part of a path name that is not empty is a dot or two, or there is none. -/
def endsInDots (s : String) : Bool :=
  match ((splitParts s.toList).filter fun part => !part.isEmpty).getLast? with
  | some part => part = ['.'] || part = ['.', '.']
  | none => true

/-- The path name of a file in a directory. -/
def join (directory name : String) : String :=
  if endsInSlash directory then directory ++ name else directory ++ "/" ++ name

/-- The name that a file has while it is being written. -/
def temporary (path : String) : String := path ++ ".tmp"

end RadarCatalog.Files
