import RadarCatalog.Registry.Policy
import RadarCatalog.Toml.Document

/-!
# Settings

The settings of the updater: the registry service and its platforms, the sentinel of allow-lists,
the selection policy, and the catalog type of each platform. Every setting has a standard value.

* `Settings.parse` reads a TOML text. A table of settings may leave keys out but holds no others;
  it may also be given as an array of its values in their order. The type table is taken whole.
* `Settings.defect?` finds the first of the rules that settings break; a text is read before any
  rule is applied.
-/

namespace RadarCatalog

open RadarCatalog.Registry RadarCatalog.Toml

/-- The registry service: its address, the platforms asked for on each run and those asked for on
    demand, and the time allowed for an answer. -/
structure RegistrySettings where
  baseUrl : String
  platforms : List String
  extraPlatforms : List String
  timeoutSeconds : Nat
deriving DecidableEq, Inhabited

/-- The settings of the updater; `types` is in the order of its platforms. -/
structure Settings where
  registry : RegistrySettings
  sentinel : String
  policy : Policy
  types : List (String × String)
deriving DecidableEq

namespace Settings

/-- The service as it is without settings. -/
def standardRegistry : RegistrySettings where
  baseUrl := "https://www.ncdc.noaa.gov/homr/services/station"
  platforms := ["NEXRAD", "TDWR"]
  extraPlatforms := ["AWOS", "UPPERAIR"]
  timeoutSeconds := 60

/-- The settings without a text. -/
def standard : Settings where
  registry := standardRegistry
  sentinel := "HOMR"
  policy := Policy.standard
  types := [("NEXRAD", "wsr88d"), ("TDWR", "tdwr")]

instance : Inhabited Settings := ⟨standard⟩

/-- The platforms to ask for. -/
def query (s : Settings) (withExtra : Bool) : List String :=
  s.registry.platforms ++ if withExtra then s.registry.extraPlatforms else []

/-! ## 1. Rules -/

/-- A rule that settings break. -/
inductive Defect where
  | policy (e : Policy.Error)
  | baseUrl (url : String)
  | noPlatforms
  | noTimeout
  | noSentinel
deriving DecidableEq

/-- The wording of a broken rule. -/
def Defect.message : Defect → String
  | .policy e => e.message
  | .baseUrl url => "homr.base_url must be an http(s) URL, got '" ++ url ++ "'"
  | .noPlatforms => "homr.platforms must not be empty"
  | .noTimeout => "homr.timeout_secs must be positive"
  | .noSentinel => "allow_list.sentinel must not be empty"

/-- An address of the web. -/
def isWebAddress (url : String) : Bool :=
  "http://".toList.isPrefixOf url.toList || "https://".toList.isPrefixOf url.toList

/-- The first rule that the settings break. -/
def defect? (s : Settings) : Option Defect :=
  match s.policy.defect? with
  | some e => some (.policy e)
  | none =>
    if !isWebAddress s.registry.baseUrl then some (.baseUrl s.registry.baseUrl)
    else if s.registry.platforms.isEmpty then some .noPlatforms
    else if s.registry.timeoutSeconds = 0 then some .noTimeout
    else if s.sentinel.isEmpty then some .noSentinel
    else none

/-! ## 2. Reading -/

/-- Why a text gives no settings: it is no document of the right form, or it breaks a rule. -/
inductive Error where
  | form
  | defect (d : Defect)
deriving DecidableEq

/-- A text. -/
def readText : Node → Option String
  | .string s => some s
  | _ => none

/-- A list of texts. -/
def readTexts : Node → Option (List String)
  | .array items => items.mapM readText
  | _ => none

/-- A number of seconds. -/
def readSeconds : Node → Option Nat
  | .integer z => if 0 ≤ z then some z.toNat else none
  | _ => none

/-- The settings in a table that knows these keys, or in an array of their values. -/
def readTable (keys : List String) : Node → Option (Fields Node)
  | .table _ entries => if entries.all fun e => keys.contains e.1 then some entries else none
  | .array items => some (keys.zip items)
  | .tables items => some (keys.zip (items.map (Node.table .header)))
  | _ => none

/-- A setting, or its standard value where it is left out. -/
def readKey {α : Type} (decode : Node → Option α) (standard : α) (fs : Fields Node)
    (key : String) : Option α :=
  match fs.get? key with
  | some node => decode node
  | none => some standard

/-- The policy. -/
def readPolicy (node : Node) : Option Policy := do
  let fs ← readTable ["identifier_priority", "elevation_priority"] node
  let identifiers ← readKey readTexts Policy.standard.identifiers fs "identifier_priority"
  let elevations ← readKey readTexts Policy.standard.elevations fs "elevation_priority"
  return ⟨identifiers, elevations⟩

/-- The registry service. -/
def readRegistry (node : Node) : Option RegistrySettings := do
  let fs ← readTable ["base_url", "platforms", "extra_platforms", "timeout_secs"] node
  let baseUrl ← readKey readText standardRegistry.baseUrl fs "base_url"
  let platforms ← readKey readTexts standardRegistry.platforms fs "platforms"
  let extraPlatforms ← readKey readTexts standardRegistry.extraPlatforms fs "extra_platforms"
  let timeoutSeconds ← readKey readSeconds standardRegistry.timeoutSeconds fs "timeout_secs"
  return ⟨baseUrl, platforms, extraPlatforms, timeoutSeconds⟩

/-- The sentinel. -/
def readSentinel (node : Node) : Option String := do
  let fs ← readTable ["sentinel"] node
  readKey readText standard.sentinel fs "sentinel"

/-- Puts an entry in its place in the order of keys. -/
def insertEntry (entry : String × String) : List (String × String) → List (String × String)
  | [] => [entry]
  | e :: es => if entry.1 < e.1 then entry :: e :: es else e :: insertEntry entry es

/-- The key under which a date or time stands where a table is wanted. -/
def momentKey : String := "$__toml_private_datetime"

/-- The type table. A date or time counts as a table with one entry, its text. -/
def readTypes : Node → Option (List (String × String))
  | .moment text => some [(momentKey, text)]
  | .table _ entries => do
    let pairs ← entries.mapM fun e => (readText e.2).map fun s => (e.1, s)
    return pairs.foldr insertEntry []
  | _ => none

/-- The settings of a document. -/
def readDocument (document : Entries) : Option Settings := do
  let fs ← readTable ["homr", "allow_list", "policy", "types"] (.table .header document)
  let registry ← readKey readRegistry standardRegistry fs "homr"
  let sentinel ← readKey readSentinel standard.sentinel fs "allow_list"
  let policy ← readKey readPolicy Policy.standard fs "policy"
  let types ← readKey readTypes standard.types fs "types"
  return ⟨registry, sentinel, policy, types⟩

/-- The settings of a text. -/
def parse (text : String) : Except Error Settings :=
  match (Toml.read text).bind readDocument with
  | none => .error .form
  | some s =>
    match s.defect? with
    | some d => .error (.defect d)
    | none => .ok s

/-- Why a text gives no policy. -/
inductive PolicyError where
  | form
  | defect (e : Policy.Error)
deriving DecidableEq

/-- The policy of a text that holds nothing else. -/
def parsePolicy (text : String) : Except PolicyError Policy :=
  match (Toml.read text).bind fun document => readPolicy (.table .header document) with
  | none => .error .form
  | some p =>
    match p.defect? with
    | some e => .error (.defect e)
    | none => .ok p

end Settings

end RadarCatalog
