import RadarCatalog.Pattern.Basic

/-!
# The room that patterns take

A pattern is refused if the table of its steps takes too much room. The table holds a step for each
byte, place and branch, and a repetition holds what it repeats as often as it counts. There are two
tables, one for each direction of reading: the one along the text notes what groups take, the one
against it has a row of steps for each way to write a character in bytes.

Where characters beyond the ASCII range are written in many ways the room is an estimate, which is
exact for sets that hold whole blocks.
-/

namespace RadarCatalog.Pattern

/-- The most room a table may take, in bytes. -/
def roomLimit : Nat := 10485760

/-- The direction in which a table is read. -/
inductive Direction where
  | along
  | against
deriving DecidableEq

/-- The room of a step. -/
def stepRoom : Nat := 32

/-- The room of a branch to a step. -/
def branchRoom : Nat := 4

/-- The room of a byte range in a step that has several. -/
def rangeRoom : Nat := 8

/-- The blocks of characters that are written in bytes of the same ranges, and the number of these
    bytes. -/
def blocks : List ((Nat × Nat) × Nat) :=
  [((0x0, 0x7F), 1), ((0x80, 0x7FF), 2), ((0x800, 0xFFF), 3), ((0x1000, 0xCFFF), 3),
    ((0xD000, 0xD7FF), 3), ((0xE000, 0xFFFF), 3), ((0x10000, 0x3FFFF), 4),
    ((0x40000, 0xFFFFF), 4), ((0x100000, 0x10FFFF), 4)]

/-- The range joined with those after it that it touches. -/
def joinRange (r : Nat × Nat) : Ranges → Ranges
  | [] => [r]
  | s :: rest => if s.1 ≤ r.2 + 1 then (r.1, max r.2 s.2) :: rest else r :: s :: rest

/-- The ranges in order, none touching another. -/
def inOrder (ranges : Ranges) : Ranges :=
  (ranges.mergeSort fun r s => r.1 ≤ s.1).foldr joinRange []

/-- The numbers of bytes in which the characters of a set are written, one for each range in each
    block. -/
def CharSet.byteCounts (s : CharSet) : List Nat :=
  s.ranges.flatMap fun r => (blocks.filter fun b => (overlap? b.1 r).isSome).map Prod.snd

/-- The sum of some numbers. -/
def total (counts : List Nat) : Nat := counts.foldr (fun n m => n + m) 0

/-- The room of one character of a set. -/
def CharSet.room (d : Direction) (s : CharSet) : Nat :=
  let s : CharSet := { s with ranges := inOrder s.ranges }
  let counts := s.byteCounts
  if s.isSingle then total counts * stepRoom
  else if s.isAscii then 2 * stepRoom + s.ranges.length * rangeRoom
  else wide counts
where
  wide (counts : List Nat) : Nat :=
    match d with
    | .along =>
      let inner := min 7 (total (counts.map (· - 1)))
      2 * stepRoom + counts.length * rangeRoom + inner * (stepRoom + rangeRoom)
    | .against => 2 * stepRoom + total counts * stepRoom + counts.length * branchRoom

/-- The pattern matches nothing but the empty part of a text. -/
def isEmptyOnly : Pattern → Bool
  | .empty | .look _ => true
  | .one _ => false
  | .seq p q | .alt p q => p.isEmptyOnly && q.isEmptyOnly
  | .times _ _ p | .capture p => p.isEmptyOnly

/-- The pattern may match the empty part of a text. -/
def mayBeEmpty : Pattern → Bool
  | .empty | .look _ => true
  | .one _ => false
  | .seq p q => p.mayBeEmpty && q.mayBeEmpty
  | .alt p q => p.mayBeEmpty || q.mayBeEmpty
  | .times low _ p => low = 0 || p.mayBeEmpty
  | .capture p => p.mayBeEmpty

/-- The room of a repetition of a part that takes some room. -/
def repeatedRoom (low : Nat) (high : Option Nat) (part : Nat) (mayBeEmpty : Bool) : Nat :=
  match low, high with
  | 0, some 0 => 0
  | 0, some 1 => part + 2 * stepRoom + 2 * branchRoom
  | 0, none =>
    if mayBeEmpty then part + 3 * stepRoom + 4 * branchRoom
    else part + stepRoom + 2 * branchRoom
  | n, none => n * part + stepRoom + 2 * branchRoom
  | n, some m =>
    if m ≤ n then n * part
    else n * part + stepRoom + (m - n) * (part + stepRoom + 2 * branchRoom)

/-- The room of a pattern in a table. Repeating what matches the empty part alone more than once
    changes nothing, so no room is taken for that. -/
def room (d : Direction) : Pattern → Nat
  | .empty => 0
  | .one s => s.room d
  | .look _ => stepRoom
  | .seq p q => p.room d + q.room d
  | .alt p q =>
    let first := max stepRoom (p.room d) + branchRoom
    match q with
    | .alt _ _ => first + q.room d
    | _ => first + max stepRoom (q.room d) + branchRoom + 2 * stepRoom
  | .times low high p =>
    if p.isEmptyOnly then
      repeatedRoom (min low 1) (some (min (high.getD 1) 1)) (p.room d) p.mayBeEmpty
    else repeatedRoom low high (p.room d) p.mayBeEmpty
  | .capture p =>
    match d with
    | .along => p.room d + 2 * stepRoom
    | .against => p.room d

/-- The room of the steps around a whole pattern. -/
def frameRoom : Nat := 6 * stepRoom + 2 * branchRoom

/-- The pattern takes too much room in a table. -/
def isTooLarge (d : Direction) (p : Pattern) : Bool := roomLimit < p.room d + frameRoom

end RadarCatalog.Pattern
