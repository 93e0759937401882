import RadarCatalog.Pattern.Meaning
import RadarCatalog.Pattern.Reader
import RadarCatalog.Pattern.Room

/-!
# Patterns of texts

`Pattern.ofText` gives the pattern that a text writes, or the reason why there is none.
-/

namespace RadarCatalog.Pattern

/-- Why a text gives no pattern: a fault in it, words that no table is at hand for, or the room
    that the pattern would take. -/
inductive Refusal where
  | fault (text : List Char) (f : Fault)
  | noWordTable
  | tooLarge
deriving DecidableEq

/-- The wording of a refusal. -/
def Refusal.message : Refusal → String
  | .fault text f => f.report text
  | .noWordTable => "error building NFA"
  | .tooLarge =>
    "Compiled regex exceeds size limit of " ++ String.ofList (Numeric.digits roomLimit) ++
      " bytes."

/-- The pattern that a text writes. -/
def ofText (text : List Char) : Except Refusal Pattern :=
  match read text with
  | .error f => .error (.fault text f)
  | .ok node =>
    match node.meaning .standard with
    | .error f => .error (.fault text f)
    | .ok (p, _) =>
      if p.isTooLarge .along then .error .tooLarge
      else if p.needsTable then .error .noWordTable
      else if p.isTooLarge .against then .error .tooLarge
      else .ok p

end RadarCatalog.Pattern
