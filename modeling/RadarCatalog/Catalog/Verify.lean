import RadarCatalog.Catalog.Basic

/-!
# Verifying a written catalog

A text is faithful to a catalog when it reads as a list of valid records, as many as expected and
each with the layout of the record expected at its place. The keys need not agree between records:
the expected catalog decides.
-/

namespace RadarCatalog.Catalog

/-- Why a text is not faithful. -/
inductive VerifyError where
  | unreadable (e : CatalogError)
  | count (read expected : Nat)
  | record (position : Nat) (id : String)
deriving DecidableEq

/-- The wording of an error. -/
def VerifyError.message (e : VerifyError) : String :=
  "round-trip verification failed: " ++
    match e with
    | .unreadable e => e.message
    | .count read expected =>
      "read back " ++ toString read ++ " of " ++ toString expected ++ " records"
    | .record position id =>
      "record " ++ toString position ++ " ('" ++ id ++ "') differs from the in-memory catalog"

/-- The first place at which two catalogs differ, with the record expected there. -/
def firstDifference (read expected : Catalog) : Option (Nat × Record) :=
  ((read.records.zip expected.records).zipIdx.find? fun p => !p.1.1.sameLayout p.1.2).map
    fun p => (p.2, p.1.2)

/-- Accepts a text that is faithful to the expected catalog. -/
def verify (text : String) (expected : Catalog) : Except VerifyError Unit :=
  match parseRecords text with
  | .error e => .error (.unreadable e)
  | .ok read =>
    if read.size ≠ expected.size then .error (.count read.size expected.size)
    else
      match firstDifference read expected with
      | some (position, record) => .error (.record position record.id)
      | none => .ok ()

end RadarCatalog.Catalog
