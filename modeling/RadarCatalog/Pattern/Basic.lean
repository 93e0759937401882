import RadarCatalog.Pattern.CharSet

/-!
# Patterns

A pattern says which parts of a text it matches. `Pattern.found` asks whether it matches a part of
a text at all, so it does not matter how a repetition prefers to end, nor what a group takes.

The places of a text of `n` characters are the `n + 1` places around them. A set of places is a
list with one truth value for each of them in order, and `Pattern.ends` gives, for the places where
a pattern may start, all places where it may end.
-/

namespace RadarCatalog

namespace Pattern

/-! ## 1. Places -/

/-- How words lie around a place: at an edge of a word or at none, at the start or the end of one,
    or at what may be a start or an end as far as one side shows. -/
inductive WordShape where
  | boundary
  | noBoundary
  | start
  | stop
  | startHalf
  | stopHalf
deriving DecidableEq

/-- The shape in terms of the two sides. -/
def WordShape.holds (before after : Bool) : WordShape → Bool
  | .boundary => before ≠ after
  | .noBoundary => before = after
  | .start => !before && after
  | .stop => before && !after
  | .startHalf => !before
  | .stopHalf => !after

/-- What a place of a text can be: an end of the text; an end of a line, where lines may end with
    carriage returns too; or a place where words lie in some shape. Words of characters beyond the
    ASCII range need a table. -/
inductive Look where
  | textStart
  | textEnd
  | lineStart (carriage : Bool)
  | lineEnd (carriage : Bool)
  | words (needsTable : Bool) (shape : WordShape)
deriving DecidableEq

/-- A character of a word in the ASCII range. -/
def isWord (c : Char) : Bool := wordRanges.any fun r => r.1 ≤ c.toNat && c.toNat ≤ r.2

/-- A place between two characters, either of them missing at an end of the text, is so. -/
def Look.holds (before after : Option Char) : Look → Bool
  | .textStart => before.isNone
  | .textEnd => after.isNone
  | .lineStart false => before.isNone || before = some '\n'
  | .lineEnd false => after.isNone || after = some '\n'
  | .lineStart true =>
    before.isNone || before = some '\n' || (before = some '\r' && after ≠ some '\n')
  | .lineEnd true =>
    after.isNone || after = some '\r' || (after = some '\n' && before ≠ some '\r')
  | .words _ shape => shape.holds (before.any isWord) (after.any isWord)

end Pattern

/-! ## 2. Patterns -/

/-- A pattern. -/
inductive Pattern where
  | empty
  | one (set : Pattern.CharSet)
  | look (l : Pattern.Look)
  | seq (p q : Pattern)
  | alt (p q : Pattern)
  | times (low : Nat) (high : Option Nat) (p : Pattern)
  | capture (p : Pattern)
deriving DecidableEq

namespace Pattern

instance : Inhabited Pattern := ⟨.empty⟩

/-- A set of places. -/
abbrev Places := List Bool

/-- The places of either set. -/
def Places.union (s t : Places) : Places := List.zipWith or s t

/-- The places behind the characters of a set that follow the places. -/
def Places.behind (set : CharSet) (text : List Char) (s : Places) : Places :=
  false :: List.zipWith (fun b c => b && set.holds c) s text

/-- The places of a set that are so; `before` is the character in front of the first. -/
def Places.only (l : Look) : (before : Option Char) → List Char → Places → Places
  | _, _, [] => []
  | before, text, b :: s =>
    (b && l.holds before text.head?) :: Places.only l text.head? text.tail s

/-- Takes a step a number of times. A step that changes nothing is not taken again. -/
def iterate (step : Places → Places) : Nat → Places → Places
  | 0, s => s
  | n + 1, s =>
    let t := step s
    if t = s then s else iterate step n t

/-- Takes a step up to a number of times and keeps all places on the way. -/
def spread (step : Places → Places) : Nat → Places → Places
  | 0, s => s
  | n + 1, s =>
    let t := s.union (step s)
    if t = s then s else spread step n t

/-- The places where the pattern may end that starts at one of the places. Each repetition beyond
    the number of places comes back to an earlier one. -/
def ends (text : List Char) : Pattern → Places → Places
  | .empty, s => s
  | .one set, s => s.behind set text
  | .look l, s => s.only l none text
  | .seq p q, s => ends text q (ends text p s)
  | .alt p q, s => (ends text p s).union (ends text q s)
  | .times low high p, s =>
    let more := match high with
      | none => text.length + 1
      | some n => n - low
    spread (ends text p) more (iterate (ends text p) low s)
  | .capture p, s => ends text p s

/-- The pattern matches some part of the text. -/
def found (p : Pattern) (text : List Char) : Bool :=
  (p.ends text (List.replicate (text.length + 1) true)).any id

end Pattern

end RadarCatalog
