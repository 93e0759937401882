import RadarCatalog.Pattern.Escape

/-!
# Reading sets between brackets

A set lists characters, ranges, named sets and sets in brackets of their own. `&&`, `--` and `~~`
between two parts take what is common to both, what is in the first alone, and what is in one of
the two; they bind from the left. A bracket that closes at once is a character, as a dash at an end
is.
-/

namespace RadarCatalog.Pattern

/-! ## 1. Sets under construction -/

/-- The parts of a set so far, the last one first. -/
structure Parts where
  span : Span
  items : List SetNode

namespace Parts

/-- No parts yet, at a place. -/
def none (p : Position) : Parts := ⟨.at p, []⟩

/-- One more part. -/
def add (ps : Parts) (item : SetNode) : Parts :=
  ⟨⟨if ps.items.isEmpty then item.span.first else ps.span.first, item.span.last⟩,
    item :: ps.items⟩

/-- The parts as one set. -/
def toSet (ps : Parts) : SetNode :=
  match ps.items with
  | [] => .empty ps.span
  | [item] => item
  | items => .union ps.span items.reverse

end Parts

/-- A bracket that is open: its beginning, whether it stands for a complement, the operation that
    waits for its second side, and the parts of the set around it. -/
structure OpenSet where
  span : Span
  negated : Bool
  pending : Option (SetOp × SetNode)
  around : Parts

/-- Completes the operation that waits for the parts. -/
def OpenSet.complete (s : OpenSet) (ps : Parts) : SetNode :=
  let right := ps.toSet
  match s.pending with
  | none => right
  | some (op, left) => .operation ⟨left.span.first, right.span.last⟩ op left right

/-! ## 2. Pieces -/

/-- The dashes behind an opening bracket, which stand for themselves. The bound counts
    characters. -/
def leadingDashes (free : Bool) (start : Position) : Nat → Parts → Cursor →
    Except Fault (Parts × Cursor)
  | 0, ps, u => .ok (ps, u)
  | bound + 1, ps, u =>
    if u.head? = some '-' then
      let v := u.step free
      if v.isDone then .error (.of .setOpen (.at start))
      else leadingDashes free start bound (ps.add (.literal ⟨u.here, '-', false⟩)) v
    else .ok (ps, u)

/-- An opening bracket with what belongs to it. -/
def openSet (free : Bool) (around : Parts) (u : Cursor) :
    Except Fault (OpenSet × Parts × Cursor) := do
  let start := u.position
  let goOn (v : Cursor) : Except Fault Cursor :=
    if v.isDone then .error (.of .setOpen (v.since start)) else .ok v
  let v ← goOn (u.step free)
  let negated := v.head? = some '^'
  let v ← if negated then goOn (v.step free) else .ok v
  let (ps, v) ← leadingDashes free start v.rest.length (.none v.position) v
  let closesAtOnce := ps.items.isEmpty && v.head? = some ']'
  let ps := if closesAtOnce then ps.add (.literal ⟨v.here, ']', false⟩) else ps
  let v ← if closesAtOnce then goOn (v.step free) else .ok v
  return (⟨v.since start, negated, none, around⟩, ps, v)

/-- A set that is named between colons in brackets, if the cursor stands at one. -/
def namedSet? (u : Cursor) : Option (SetNode × Cursor) := do
  let v ← u.over? "[:"
  let (negated, v) := match v.over? "^" with
    | some w => (true, w)
    | none => (false, v)
  let name := v.rest.takeWhile (· ≠ ':')
  let w ← (v.advance name.length).over? ":]"
  let ranges ← namedRanges? (String.ofList name)
  return (.ascii (w.since u.position) negated ranges, w)

/-- A character or an escape in a set. -/
def setItem (free : Bool) (u : Cursor) : Except Fault (Node × Cursor) :=
  match u.rest with
  | '\\' :: _ => escape free u
  | c :: _ => .ok (.literal ⟨u.here, c, false⟩, u.next)
  | [] => .ok (.empty u.here, u)

/-- A part of a pattern as a part of a set. -/
def Node.toSet : Node → Except Fault SetNode
  | .literal l => .ok (.literal l)
  | .named span negated name => .ok (.named span negated name)
  | .property span p => .ok (.property span p)
  | node => .error (.of .setEscape node.span)

/-- A part of a pattern as the end of a range. -/
def Node.toBoundary : Node → Except Fault Literal
  | .literal l => .ok l
  | node => .error (.of .setBoundary node.span)

/-- A part of a set: an item alone, or a range. -/
def setRange (free : Bool) (unclosed : Fault) (u : Cursor) : Except Fault (SetNode × Cursor) := do
  let (low, v) ← setItem free u
  let v := v.skip free
  if v.isDone then throw unclosed
  let second := v.second? free
  if v.head? ≠ some '-' || second = some ']' || second = some '-' then
    return (← low.toSet, v)
  let v := v.step free
  if v.isDone then throw unclosed
  let (high, w) ← setItem free v
  let span : Span := ⟨low.span.first, high.span.last⟩
  let first ← low.toBoundary
  let last ← high.toBoundary
  if first.char ≤ last.char then return (.range span first last, w)
  else throw (.of .setRange span)

/-- The operation whose sign the cursor stands at, and the cursor behind it. -/
def setOp? (u : Cursor) : Option (SetOp × Cursor) :=
  ((u.over? "&&").map fun v => (.inter, v)).or
    (((u.over? "--").map fun v => (.without, v)).or
      ((u.over? "~~").map fun v => (.symmetric, v)))

/-! ## 3. The whole set -/

/-- Reads on in the innermost of the open brackets. The bound counts steps. -/
def readSetFrom (free : Bool) : Nat → OpenSet → List OpenSet → Parts → Cursor →
    Except Fault (Node × Cursor)
  | 0, s, _, _, _ => .error (.of .setOpen s.span)
  | bound + 1, s, outer, ps, u =>
    let u := u.skip free
    match u.rest with
    | [] => .error (.of .setOpen s.span)
    | '[' :: _ =>
      match namedSet? u with
      | some (item, v) => readSetFrom free bound s outer (ps.add item) v
      | none => do
        let (inner, parts, v) ← openSet free ps u
        readSetFrom free bound inner (s :: outer) parts v
    | ']' :: _ =>
      let v := u.next
      let span := v.since s.span.first
      match outer with
      | [] => .ok (.bracket span s.negated (s.complete ps), v)
      | t :: outer =>
        readSetFrom free bound t outer (s.around.add (.bracket span s.negated (s.complete ps))) v
    | _ =>
      match setOp? u with
      | some (op, v) =>
        readSetFrom free bound { s with pending := some (op, s.complete ps) } outer
          (.none v.position) v
      | none => do
        let (item, v) ← setRange free (.of .setOpen s.span) u
        readSetFrom free bound s outer (ps.add item) v

/-- A set; the cursor stands at its opening bracket. -/
def readSet (free : Bool) (u : Cursor) : Except Fault (Node × Cursor) := do
  let (s, parts, v) ← openSet free (.none u.position) u
  readSetFrom free (2 * u.rest.length) s [] parts v

end RadarCatalog.Pattern
