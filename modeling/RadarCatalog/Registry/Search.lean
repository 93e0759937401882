import RadarCatalog.Registry.Snapshot
import RadarCatalog.Text.Blank

/-!
# Searches of the registry

The service is asked once for each platform. This module says what a search asks, which stations an
answer holds, and why an answer holds none. Sending a request and reading the body are not its work:
it takes an answer as it comes.

The wording of a status and of a fault on the way is that of the web client and comes with them; the
position that a JSON error has in the body is left out.
-/

namespace RadarCatalog.Registry

/-! ## 1. What is asked -/

/-- The name of the program, as the service sees it. -/
def userAgent : String := "radar-sites/0.1.0"

/-- A request: an address, and the parameters behind it in order. -/
structure Query where
  url : String
  parameters : List (String × String)
deriving DecidableEq

/-- A text without the slashes at its end. -/
def withoutSlashes (text : String) : String :=
  String.ofList (text.toList.reverse.dropWhile (· = '/')).reverse

/-- The request for the stations of a platform, or for those that the registry calls current. -/
def Query.ofPlatform (baseUrl : String) (currentOnly : Bool) (platform : String) : Query where
  url := withoutSlashes baseUrl ++ "/search"
  parameters :=
    [("definitions", "false"), ("phrData", "false"), ("platform", platform)] ++
      if currentOnly then [("current", "true")] else []

/-! ## 2. What is answered -/

/-- An answer of the service: the status, its number and how it is worded, and the body. -/
structure Answer where
  status : Nat
  wording : String
  body : String
deriving DecidableEq

/-- The status is one of success. -/
def Answer.isSuccess (a : Answer) : Bool := 200 ≤ a.status && a.status < 300

/-- Why there is no answer: the request did not get through, or the body could not be read. -/
inductive Unanswered where
  | failed (cause : String)
  | unreadable (cause : String)
deriving DecidableEq

/-- Why a search gives no stations. -/
inductive SearchError where
  | noClient (cause : String)
  | unanswered (platform : String) (e : Unanswered)
  | refused (platform : String) (a : Answer)
  | notJson (platform : String) (e : Json.Error)
  | noStations (e : ResponseError)
deriving DecidableEq

/-- The wording of an error. -/
def SearchError.message : SearchError → String
  | .noClient cause => "cannot build HTTP client: " ++ cause
  | .unanswered platform (.failed cause) =>
    "HOMR request for " ++ platform ++ " failed: " ++ cause
  | .unanswered platform (.unreadable cause) =>
    "HOMR response for " ++ platform ++ " unreadable: " ++ cause
  | .refused platform a => "HOMR returned " ++ a.wording ++ " for platform " ++ platform
  | .notJson platform e => "HOMR response for " ++ platform ++ " is not JSON: " ++ e.message
  | .noStations e => e.message

/-- How much of a refusal's body is shown. -/
def shownLength : Nat := 300

/-- The hint on an error: what the service says with a refusal, if it says anything. -/
def SearchError.hint : SearchError → Option String
  | .refused _ a =>
    match Text.trim a.body.toList with
    | [] => none
    | body => some (String.ofList (body.take shownLength))
  | _ => none

/-- The stations in an answer. -/
def stationsOfAnswer (platform : String) (a : Answer) : Except SearchError (List Json.Value) :=
  if a.isSuccess then do
    let body ← (Json.read .any a.body).mapError (SearchError.notJson platform)
    (stationsOfResponse body).mapError SearchError.noStations
  else .error (.refused platform a)

/-- The stations that a search gives. -/
def stationsOfReply (platform : String) :
    Except Unanswered Answer → Except SearchError (List Json.Value)
  | .ok a => stationsOfAnswer platform a
  | .error e => .error (.unanswered platform e)

end RadarCatalog.Registry
