import RadarCatalog.Catalog.Coordinates
import RadarCatalog.Catalog.Merge
import RadarCatalog.Catalog.Verify
import RadarCatalog.Registry.Snapshot

/-!
# Why an update fails

The causes from all parts of an update side by side, with their wording.
-/

namespace RadarCatalog.Update

open RadarCatalog.Catalog RadarCatalog.Registry

/-- The cause of a failed update. A path is named as it was given. -/
inductive Failure where
  | read (path cause : String)
  | write (path cause : String)
  | catalog (e : CatalogError)
  | snapshotText (e : Json.Error)
  | station (e : SnapshotError)
  | number (e : NumberError)
  | verification (e : VerifyError)
  | coordinate (e : CoordinateError)
deriving DecidableEq

/-- The wording of a failure. -/
def Failure.message : Failure → String
  | .read path cause => "cannot read " ++ path ++ ": " ++ cause
  | .write path cause => "cannot write " ++ path ++ ": " ++ cause
  | .catalog e => e.message
  | .snapshotText e => "invalid HOMR snapshot: " ++ e.message
  | .station e => e.message
  | .number e => e.message
  | .verification e => e.message
  | .coordinate e => e.message

/-- The records of a catalog do not list the same keys. -/
def Failure.isInconsistentSchema : Failure → Bool
  | .catalog e => e.isInconsistentSchema
  | _ => false

end RadarCatalog.Update
