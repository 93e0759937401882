import RadarCatalog.Pattern.CharSet
import RadarCatalog.Pattern.Fault

/-!
# Written patterns

The parts of a pattern as they are written, each with its place, so that a fault in their meaning
can be shown.
-/

namespace RadarCatalog.Pattern

/-! ## 1. Flags -/

/-- What a letter in a list of flags changes: letters of either case, anchors at each line, a point
    for line ends too, the preference of repetitions, whole characters, the carriage return in line
    ends, and white space without a meaning. -/
inductive Flag where
  | caseless
  | lines
  | pointAll
  | swapped
  | characters
  | carriage
  | free
deriving DecidableEq

/-- The flag of a letter. -/
def Flag.ofLetter? : Char → Option Flag
  | 'i' => some .caseless
  | 'm' => some .lines
  | 's' => some .pointAll
  | 'U' => some .swapped
  | 'u' => some .characters
  | 'R' => some .carriage
  | 'x' => some .free
  | _ => none

/-- A part of a list of flags: a flag, or the dash before those that are switched off. -/
structure FlagItem where
  span : Span
  flag : Option Flag
deriving DecidableEq

/-- The state that a list gives to a flag, if it is in there; `on` is the state before a dash. -/
def flagState? (flag : Flag) : (on : Bool) → List FlagItem → Option Bool
  | _, [] => none
  | on, item :: items =>
    match item.flag with
    | none => flagState? flag false items
    | some f => if f = flag then some on else flagState? flag on items

/-! ## 2. Parts -/

/-- A character that stands for itself. One with two hexadecimal digits stands for a byte where
    the pattern is about bytes. -/
structure Literal where
  span : Span
  char : Char
  isByte : Bool
deriving DecidableEq

/-- A place that a pattern can ask for. -/
inductive Anchor where
  | lineStart
  | lineEnd
  | textStart
  | textEnd
  | boundary
  | noBoundary
  | wordStart
  | wordEnd
  | wordStartHalf
  | wordEndHalf
deriving DecidableEq

/-- The name of a property of characters, and its value where one is given. -/
structure Property where
  name : List Char
  value : Option (List Char)
deriving DecidableEq

/-- An operation on two sets. -/
inductive SetOp where
  | inter
  | without
  | symmetric
deriving DecidableEq

/-- A set between brackets, or a part of one. -/
inductive SetNode where
  | empty (span : Span)
  | literal (l : Literal)
  | range (span : Span) (low high : Literal)
  | ascii (span : Span) (negated : Bool) (ranges : Ranges)
  | named (span : Span) (negated : Bool) (name : ClassName)
  | property (span : Span) (property : Property)
  | bracket (span : Span) (negated : Bool) (set : SetNode)
  | union (span : Span) (items : List SetNode)
  | operation (span : Span) (op : SetOp) (left right : SetNode)

/-- The place of a set. -/
def SetNode.span : SetNode → Span
  | .empty s | .range s _ _ | .ascii s _ _ | .named s _ _ | .property s _ => s
  | .bracket s _ _ | .union s _ | .operation s _ _ _ => s
  | .literal l => l.span

/-- A part of a pattern. `high` is the most repetitions, if there is a limit. -/
inductive Node where
  | empty (span : Span)
  | flags (span : Span) (items : List FlagItem)
  | literal (l : Literal)
  | point (span : Span)
  | anchor (span : Span) (a : Anchor)
  | named (span : Span) (negated : Bool) (name : ClassName)
  | property (span : Span) (property : Property)
  | bracket (span : Span) (negated : Bool) (set : SetNode)
  | repetition (span : Span) (low : Nat) (high : Option Nat) (part : Node)
  | group (span : Span) (capturing : Bool) (flags : List FlagItem) (part : Node)
  | alternatives (span : Span) (parts : List Node)
  | sequence (span : Span) (parts : List Node)

/-- The place of a part. -/
def Node.span : Node → Span
  | .empty s | .flags s _ | .point s | .anchor s _ | .named s _ _ | .property s _ => s
  | .bracket s _ _ | .repetition s _ _ _ | .group s _ _ _ | .alternatives s _ => s
  | .sequence s _ => s
  | .literal l => l.span

/-! ## 3. Nesting -/

/-- Goes one part deeper, if that is allowed. -/
def deeper (depth : Nat) (span : Span) : Except Fault Nat :=
  if depth < maxNesting then .ok (depth + 1) else .error (.of .nesting span)

mutual

/-- The set is not nested too deep; `depth` counts the parts it stands in. -/
def SetNode.checkDepth (depth : Nat) : SetNode → Except Fault Unit
  | .bracket span _ set => do set.checkDepth (← deeper depth span)
  | .union span items => do checkSetDepths (← deeper depth span) items
  | .operation span _ left right => do
    let depth ← deeper depth span
    left.checkDepth depth
    right.checkDepth depth
  | _ => .ok ()

/-- None of the sets is nested too deep. -/
def checkSetDepths (depth : Nat) : List SetNode → Except Fault Unit
  | [] => .ok ()
  | item :: items => do
    item.checkDepth depth
    checkSetDepths depth items

end

mutual

/-- The part is not nested too deep; `depth` counts the parts it stands in. -/
def Node.checkDepth (depth : Nat) : Node → Except Fault Unit
  | .bracket span _ set => do set.checkDepth (← deeper depth span)
  | .repetition span _ _ part => do part.checkDepth (← deeper depth span)
  | .group span _ _ part => do part.checkDepth (← deeper depth span)
  | .alternatives span parts => do checkDepths (← deeper depth span) parts
  | .sequence span parts => do checkDepths (← deeper depth span) parts
  | _ => .ok ()

/-- None of the parts is nested too deep. -/
def checkDepths (depth : Nat) : List Node → Except Fault Unit
  | [] => .ok ()
  | part :: parts => do
    part.checkDepth depth
    checkDepths depth parts

end

end RadarCatalog.Pattern
