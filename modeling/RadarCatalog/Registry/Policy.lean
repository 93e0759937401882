import RadarCatalog.Text.Blank

/-!
# The selection policy

A policy holds two priority lists: one of identifier categories, from which the station id is
taken, and one of the bases on which an elevation may have been measured.

`Policy.check` accepts a policy whose lists are not empty, hold no blank category and hold none
twice. It reports the identifier list before the elevation list, and in a list the first entry at
fault.
-/

namespace RadarCatalog.Registry

/-- The categories that count, the best first. -/
structure Policy where
  identifiers : List String
  elevations : List String
deriving DecidableEq

namespace Policy

/-- Radar ids before airport ids, and ground elevations alone. -/
def standard : Policy := ⟨["NEXRAD", "ICAO"], ["GROUND"]⟩

/-- One of the two lists. -/
inductive Part where
  | identifiers
  | elevations
deriving DecidableEq

/-- The name that a list has in the settings. -/
def Part.name : Part → String
  | .identifiers => "identifier_priority"
  | .elevations => "elevation_priority"

/-- What can be wrong with a list. -/
inductive Defect where
  | empty
  | blankCategory
  | repeated (category : String)
deriving DecidableEq

/-- A defect and the list it is in. -/
structure Error where
  part : Part
  defect : Defect
deriving DecidableEq

/-- The wording of an error. -/
def Error.message (e : Error) : String :=
  "policy validation error: " ++ e.part.name ++
    match e.defect with
    | .empty => " must not be empty"
    | .blankCategory => " contains an empty category"
    | .repeated category => " lists '" ++ category ++ "' more than once"

/-- The first entry at fault: a blank one, or one that is among the `seen`. -/
def firstDefect (seen : List String) : List String → Option Defect
  | [] => none
  | category :: rest =>
    if Text.isBlankText category then some .blankCategory
    else if category ∈ seen then some (.repeated category)
    else firstDefect (category :: seen) rest

/-- The defect of a list. -/
def defectOf (categories : List String) : Option Defect :=
  if categories.isEmpty then some .empty else firstDefect [] categories

/-- The defect of a policy that is reported; `none` accepts it. -/
def defect? (p : Policy) : Option Error :=
  match defectOf p.identifiers with
  | some d => some ⟨.identifiers, d⟩
  | none => (defectOf p.elevations).map (Error.mk .elevations)

/-- Accepts a policy or reports its defect. -/
def check (p : Policy) : Except Error Unit :=
  match p.defect? with
  | some e => .error e
  | none => .ok ()

end Policy

end RadarCatalog.Registry
