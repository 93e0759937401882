import RadarCatalog.Log.Level
import RadarCatalog.Pattern.OfText
import RadarCatalog.Text.Blank

/-!
# Log filters

A filter text lists directives between commas, and after a slash it may give a pattern that a
message has to match somewhere. A directive is a level for every part of the program, the name of a
part, or a name with a level behind an equals sign; a name alone lets everything through.

* Of the directives whose name a part's name starts with, the one with the longest name decides;
  of two with one name, the later.
* Without directives only errors pass.
* A directive that makes no sense is left out with a warning, and so is a pattern; a text with a
  second slash is left out as a whole.
-/

namespace RadarCatalog.Log

/-- A level that lets messages up to a rank pass; `none` lets no message pass. -/
abbrev Limit := Option Level

/-- A limit for the parts whose name starts with a text; without a text, for all. -/
structure Directive where
  name : Option String
  limit : Limit
deriving DecidableEq

/-- The directives in order of their names' lengths, and the pattern that messages have to match. -/
structure Filter where
  directives : List Directive
  required : Option Pattern
deriving DecidableEq

/-! ## 1. Reading directives -/

/-- The text in small ASCII letters. -/
def lowerAscii (cs : List Char) : List Char :=
  cs.map fun c => if 65 ≤ c.toNat && c.toNat ≤ 90 then Char.ofNat (c.toNat + 32) else c

/-- The limit that a word names, in letters of either case. -/
def readLimit (cs : List Char) : Option Limit :=
  match String.ofList (lowerAscii cs) with
  | "off" => some none
  | "error" => some (some .error)
  | "warn" => some (some .warn)
  | "info" => some (some .info)
  | "debug" => some (some .debug)
  | "trace" => some (some .trace)
  | _ => none

/-- The pieces of a text between the places of a character. -/
def splitAt (separator : Char) : List Char → List (List Char)
  | [] => [[]]
  | c :: cs =>
    if c = separator then [] :: splitAt separator cs
    else
      match splitAt separator cs with
      | [] => [[c]]
      | piece :: pieces => (c :: piece) :: pieces

/-- A directive, or the text at fault. -/
def readDirective (cs : List Char) : Except (List Char) Directive :=
  let named (name : List Char) (limit : Limit) : Directive := ⟨some (String.ofList name), limit⟩
  match splitAt '=' cs with
  | [word] =>
    match readLimit word with
    | some limit => .ok ⟨none, limit⟩
    | none => .ok (named word (some .trace))
  | [name, limit] =>
    match Text.trim limit with
    | [] => .ok (named name (some .trace))
    | word =>
      match readLimit word with
      | some limit => .ok (named name limit)
      | none => .error word
  | _ => .error cs

/-! ## 2. Building a filter -/

/-- The warning about a text at fault. -/
def faultWarning (cs : List Char) (why : String) : String :=
  "warning: invalid logging spec '" ++ String.ofList cs ++ "'" ++ why ++ ", ignoring it"

/-- Adds a directive, in place of one with the same name. -/
def addDirective (d : Directive) : List Directive → List Directive
  | [] => [d]
  | e :: es => if e.name = d.name then d :: es else e :: addDirective d es

/-- The length of a directive's name in bytes. -/
def Directive.size (d : Directive) : Nat := (d.name.map String.utf8ByteSize).getD 0

/-- Puts a directive behind those whose names are not longer. -/
def insertBySize (d : Directive) : List Directive → List Directive
  | [] => [d]
  | e :: es => if d.size < e.size then d :: e :: es else e :: insertBySize d es

/-- The directives that decide: errors for all where there are none. -/
def arrange (ds : List Directive) : List Directive :=
  if ds.isEmpty then [⟨none, some .error⟩]
  else ds.foldl (fun sorted d => insertBySize d sorted) []

/-- The pattern behind a slash, if there is one, and the warnings about it. -/
def readRequired : Option (List Char) → Option Pattern × List String
  | none => (none, [])
  | some cs =>
    match Pattern.ofText cs with
    | .ok p => (some p, [])
    | .error r => (none, ["warning: invalid regex filter - " ++ r.message ++ ", ignoring it"])

/-- The filter of a text, and the warnings about it. -/
def Filter.ofText (text : String) : Filter × List String :=
  match splitAt '/' text.toList with
  | directives :: rest =>
    if 1 < rest.length then
      (⟨arrange [], none⟩, [faultWarning text.toList " (too many '/'s)"])
    else
      let pieces := ((splitAt ',' directives).map Text.trim).filter fun p => !p.isEmpty
      let read := pieces.map readDirective
      let accepted := read.filterMap fun r => r.toOption
      let faults := read.filterMap fun r => match r with
        | .error cs => some (faultWarning cs "")
        | .ok _ => none
      let (required, refusals) := readRequired rest.head?
      (⟨arrange (accepted.foldl (fun ds d => addDirective d ds) []), required⟩,
        faults ++ refusals)
  | [] => (⟨arrange [], none⟩, [])

/-! ## 3. Filtering -/

/-- The directive is about the part of the program. -/
def Directive.covers (d : Directive) (part : String) : Bool :=
  match d.name with
  | none => true
  | some name => name.toList.isPrefixOf part.toList

/-- The entry of a part passes the filter. -/
def Filter.passes (f : Filter) (part : String) (e : Entry) : Bool :=
  let limit := (f.directives.reverse.find? (·.covers part)).bind Directive.limit
  let ranked := match limit with
    | some level => e.level.rank ≤ level.rank
    | none => false
  ranked && f.required.all fun p => p.found e.message.toList

end RadarCatalog.Log
