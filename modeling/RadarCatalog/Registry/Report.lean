/-!
# Station reports

What the registry reports of a station: names and elevations, each with a category, the position
as text, and the platforms, the primary one first.
-/

namespace RadarCatalog.Registry

/-- A text with the category it belongs to. -/
structure Tagged where
  category : String
  value : String
deriving DecidableEq, Inhabited

/-- A station as the registry reports it. Numbers stay texts until one of them is chosen. -/
structure StationReport where
  identifiers : List Tagged
  elevations : List Tagged
  latitude : String
  longitude : String
  platforms : List String
deriving DecidableEq, Inhabited

end RadarCatalog.Registry
