import RadarCatalog.Catalog.Basic

/-!
# Coordinate listing

One line a record: the magnitude of the latitude with `N` or `S`, a space, and the magnitude of
the longitude with `E` or `W`. Zero counts as south or west. A magnitude is written as in the
catalog itself.
-/

namespace RadarCatalog.Catalog

open RadarCatalog.Json RadarCatalog.Numeric

/-- A record without a number under one of the two keys. -/
structure CoordinateError where
  id : String
  key : String
deriving DecidableEq

/-- The wording of an error. -/
def CoordinateError.message (e : CoordinateError) : String :=
  "station '" ++ e.id ++ "': '" ++ e.key ++ "' is not a number"

/-- The text of a number's magnitude. -/
def magnitudeText : Number → List Char
  | .integer z => digits z.val.natAbs
  | .real x => x.abs.text

/-- The number is above zero. -/
def isPositive : Number → Bool
  | .integer z => 0 < z.val
  | .real x => x.isPositive

/-- A coordinate: the magnitude and one of two letters. -/
def coordinateText (positive negative : Char) (n : Number) : List Char :=
  magnitudeText n ++ [if isPositive n then positive else negative]

/-- The number that a record holds under a key. -/
def Record.number (r : Record) (key : String) : Except CoordinateError Number :=
  match r.get? key with
  | some (.number n) => .ok n
  | _ => .error ⟨r.id, key⟩

/-- The line of a record. -/
def coordinateLine (r : Record) : Except CoordinateError (List Char) := do
  let lat ← r.number "lat"
  let lon ← r.number "lon"
  return coordinateText 'N' 'S' lat ++ ' ' :: coordinateText 'E' 'W' lon ++ ['\n']

/-- The listing of a catalog; the first record without numbers is the error. -/
def coordinates (c : Catalog) : Except CoordinateError String :=
  (c.records.mapM coordinateLine).map fun lines => String.ofList lines.flatten

end RadarCatalog.Catalog
