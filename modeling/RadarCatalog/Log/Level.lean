import RadarCatalog.Text.Terminal

/-!
# Log levels and lines

Levels from errors, which are the most important, to traces. A line of the log names the level in
brackets, padded to five letters; the lines of a message after its first are indented. On demand
the level and its brackets have colours; without them a message loses its control sequences, since
a terminal would take them for colours too.
-/

namespace RadarCatalog.Log

/-- How important a message is. -/
inductive Level where
  | error
  | warn
  | info
  | debug
  | trace
deriving DecidableEq

/-- The place of a level, the most important one first. -/
def Level.rank : Level → Nat
  | .error => 1
  | .warn => 2
  | .info => 3
  | .debug => 4
  | .trace => 5

/-- A level as a line names it. -/
def Level.label : Level → String
  | .error => "ERROR"
  | .warn => "WARN "
  | .info => "INFO "
  | .debug => "DEBUG"
  | .trace => "TRACE"

/-- A message with its level. -/
structure Entry where
  level : Level
  message : String
deriving DecidableEq

/-- A character of a message after the first line break is indented by four. -/
def indentBreak (c : Char) : List Char := if c = '\n' then "\n    ".toList else [c]

/-- The sequence that selects colours by their numbers. -/
def selectColours (numbers : String) : String := "\x1b[" ++ numbers ++ "m"

/-- A text in a colour. -/
def coloured (start text : String) : String := start ++ text ++ selectColours "0"

/-- What selects the colour of a level: errors are bold and red, and the others are yellow, green,
    blue and cyan. -/
def Level.colour : Level → String
  | .error => selectColours "1" ++ selectColours "31"
  | .warn => selectColours "33"
  | .info => selectColours "32"
  | .debug => selectColours "34"
  | .trace => selectColours "36"

/-- A mark in grey. -/
def grey (text : String) : String := coloured (selectColours "90") text

/-- A message with its lines indented. -/
def indented (message : String) : String :=
  String.ofList (message.toList.flatMap indentBreak)

/-- The text of an entry with the line break at its end. -/
def Entry.text (hasColours : Bool) (e : Entry) : String :=
  if hasColours then
    grey "[" ++ coloured e.level.colour e.level.label ++ grey "]" ++ " " ++ indented e.message ++
      "\n"
  else Text.withoutControls ("[" ++ e.level.label ++ "] " ++ indented e.message ++ "\n")

/-- Lines have colours if the style of the log says so. Where it leaves that open, they have none
    on a text that no terminal shows, unless the environment insists on them and does not refuse
    them as well. -/
def hasColours (style : Option String) (refused insisted : Bool) : Bool :=
  match style with
  | some "always" => true
  | some "never" => false
  | _ => insisted && !refused

end RadarCatalog.Log
