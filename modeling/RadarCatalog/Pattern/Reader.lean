import RadarCatalog.Pattern.SetReader
import RadarCatalog.Text.Letter

/-!
# Reading patterns

`read` takes a pattern apart. The parts of a level stand between bars; a group opens a level of its
own. Flags hold from their place to the end of their level.
-/

namespace RadarCatalog.Pattern

open RadarCatalog.Text

/-! ## 1. Levels -/

/-- The parts of a level so far: the places where the level and its present branch start, the
    finished branches and the items of the present one, the last ones first. -/
structure Branches where
  start : Position
  finished : List Node
  branchStart : Position
  items : List Node

namespace Branches

/-- A level without parts. -/
def none (p : Position) : Branches := ⟨p, [], p, []⟩

/-- One more item. -/
def add (b : Branches) (item : Node) : Branches := { b with items := item :: b.items }

/-- The present branch, which ends at a place. -/
def branch (b : Branches) (stop : Position) : Node :=
  match b.items with
  | [] => .empty ⟨b.branchStart, stop⟩
  | [item] => item
  | items => .sequence ⟨b.branchStart, stop⟩ items.reverse

/-- A bar at one place, with the next branch at another. -/
def bar (b : Branches) (stop next : Position) : Branches :=
  ⟨b.start, b.branch stop :: b.finished, next, []⟩

/-- The level, which ends at a place. -/
def close (b : Branches) (stop : Position) : Node :=
  match b.finished with
  | [] => b.branch stop
  | finished => .alternatives ⟨b.start, stop⟩ (b.branch stop :: finished).reverse

end Branches

/-- A group that is open: the place of its parenthesis, what it is, whether the level around it is
    free, and the parts of that level. -/
structure OpenGroup where
  span : Span
  capturing : Bool
  flags : List FlagItem
  free : Bool
  around : Branches

/-! ## 2. Groups -/

/-- A name with its place. -/
structure GroupName where
  span : Span
  name : List Char

/-- A character of a group's name. -/
def isNameCharacter (first : Bool) (c : Char) : Bool :=
  c = '_' || isLetter c || (!first && (isNumeral c || c = '.' || c = '[' || c = ']'))

/-- The characters of a name up to the angle that ends it. -/
def nameCharacters (first : Bool) : List Char → Position → Except Fault (List Char × Cursor)
  | [], p => .error (.of .nameCut (.at p))
  | c :: cs, p =>
    if c = '>' then .ok ([], ⟨cs, p.after c⟩)
    else if isNameCharacter first c then
      (nameCharacters false cs (p.after c)).map fun (name, u) => (c :: name, u)
    else .error (.of .nameCharacter ⟨p, p.after c⟩)

/-- The name of a group, which no earlier one has. -/
def groupName (earlier : List GroupName) (u : Cursor) : Except Fault (GroupName × Cursor) := do
  let (name, v) ← nameCharacters true u.rest u.position
  if name.isEmpty then throw (.of .nameEmpty (.at u.position))
  let last : Position := ⟨v.position.line, v.position.column - 1⟩
  let span : Span := ⟨u.position, last⟩
  match earlier.find? fun g => g.name = name with
  | some g => throw ⟨.nameRepeated, span, some g.span⟩
  | none => return (⟨span, name⟩, v)

/-- The flags up to a colon or a closing parenthesis; `dash` is the place of a dash that no flag
    has followed yet. -/
def readFlags (items : List FlagItem) (dash : Option Span) :
    List Char → Position → Except Fault (List FlagItem × Cursor)
  | [], p => .error (.of .flagCut (.at p))
  | c :: cs, p =>
    let span : Span := ⟨p, p.after c⟩
    if c = ':' || c = ')' then
      match dash with
      | some place => .error (.of .flagDangling place)
      | none => .ok (items.reverse, ⟨c :: cs, p⟩)
    else
      let flag? : Except Fault (Option Flag) :=
        if c = '-' then .ok none
        else
          match Flag.ofLetter? c with
          | some f => .ok (some f)
          | none => .error (.of .flagUnknown span)
      match flag? with
      | .error e => .error e
      | .ok flag =>
        match items.find? fun item => item.flag = flag with
        | some item =>
          .error ⟨if flag.isNone then .flagNegatedTwice else .flagRepeated, span, some item.span⟩
        | none =>
          readFlags (⟨span, flag⟩ :: items) (if flag.isNone then some span else none) cs
            (p.after c)

/-- What an opening parenthesis begins: flags for the level around it, or a group. -/
inductive Opening where
  | flags (node : Node) (items : List FlagItem)
  | group (capturing : Bool) (flags : List FlagItem) (name : Option GroupName)

/-- What looks around in the text, which no pattern does. -/
def lookAround? (u : Cursor) : Option Cursor :=
  ["?=", "?!", "?<=", "?<!"].findSome? fun sign => u.over? sign

/-- An opening parenthesis with what belongs to it. -/
def openGroup (free : Bool) (names : List GroupName) (u : Cursor) :
    Except Fault (Opening × Cursor) := do
  let v := u.step free
  match lookAround? v with
  | some w => throw (.of .lookAround (w.since u.position))
  | none =>
    match (v.over? "?P<").or (v.over? "?<") with
    | some w => do
      let (name, w) ← groupName names w
      return (.group true [] (some name), w)
    | none =>
      match v.over? "?" with
      | none => return (.group true [] none, v)
      | some w => do
        if w.isDone then throw (.of .groupOpen u.here)
        let (items, x) ← readFlags [] none w.rest w.position
        if x.head? = some ')' then
          if items.isEmpty then throw (.of .nothingToRepeat (.at v.position))
          let y := x.next
          return (.flags (.flags (y.since u.position) items) items, y)
        else return (.group false items none, x.next)

/-! ## 3. Repetitions -/

/-- The numbers of repetitions between braces. -/
def counts (free : Bool) (u : Cursor) : Except Fault (Nat × Option Nat × Cursor) := do
  let unclosed (v : Cursor) : Except Fault Cursor :=
    if v.isDone then .error (.of .countOpen (v.since u.position)) else .ok v
  let v ← unclosed (u.step free)
  let (low, v) := decimal free v
  let v ← unclosed v
  let (low, high, v) ←
    if v.head? = some ',' then do
      let v ← unclosed (v.step free)
      if v.head? = some '}' then pure (← low, none, v)
      else
        let low ← low
        let (high, v) := decimal free v
        pure (low, some (← high), v)
    else do
      let n ← low
      pure (n, some n, v)
  if v.head? ≠ some '}' then throw (.of .countOpen (v.since u.position))
  return (low, high, v)

/-- Behind a question mark, if the cursor stands at one. It says that a repetition ends as soon as
    it can, which does not change what is found. -/
def overLazy (u : Cursor) : Cursor := if u.head? = some '?' then u.next else u

/-- What is repeated: the last item of a branch. -/
def repeatable (b : Branches) (u : Cursor) : Except Fault (Node × Branches) :=
  match b.items with
  | [] => .error (.of .nothingToRepeat (.at u.position))
  | item :: items =>
    match item with
    | .empty _ | .flags _ _ => .error (.of .nothingToRepeat (.at u.position))
    | item => .ok (item, { b with items := items })

/-- The last item of a branch repeated by a sign. -/
def signRepetition (low : Nat) (high : Option Nat) (b : Branches) (u : Cursor) :
    Except Fault (Branches × Cursor) := do
  let (item, b) ← repeatable b u
  let v := overLazy u.next
  return (b.add (.repetition ⟨item.span.first, v.position⟩ low high item), v)

/-- The last item of a branch repeated by numbers between braces. -/
def countedRepetition (free : Bool) (b : Branches) (u : Cursor) :
    Except Fault (Branches × Cursor) := do
  let (item, b) ← repeatable b u
  let (low, high, v) ← counts free u
  let v := overLazy (v.step free)
  if high.any (· < low) then throw (.of .countOrder (v.since u.position))
  return (b.add (.repetition ⟨item.span.first, v.position⟩ low high item), v)

/-! ## 4. The whole pattern -/

/-- A part that begins with none of the signs of levels, sets and repetitions. -/
def primitive (free : Bool) (u : Cursor) : Except Fault (Node × Cursor) :=
  match u.rest with
  | '\\' :: _ => escape free u
  | '.' :: _ => .ok (.point u.here, u.next)
  | '^' :: _ => .ok (.anchor u.here .lineStart, u.next)
  | '$' :: _ => .ok (.anchor u.here .lineEnd, u.next)
  | c :: _ => .ok (.literal ⟨u.here, c, false⟩, u.next)
  | [] => .ok (.empty u.here, u)

/-- The state of a reader: the open groups, the innermost first, whether the level is free, the
    names of groups, and the parts of the level. -/
structure Draft where
  groups : List OpenGroup
  free : Bool
  names : List GroupName
  level : Branches

/-- Takes an opening parenthesis. -/
def Draft.openGroup (d : Draft) (u : Cursor) : Except Fault (Draft × Cursor) := do
  match ← Pattern.openGroup d.free d.names u with
  | (.flags node items, v) =>
    let free := (flagState? .free true items).getD d.free
    return ({ d with free := free, level := d.level.add node }, v)
  | (.group capturing flags name, v) =>
    let free := (flagState? .free true flags).getD d.free
    let names := match name with
      | some g => g :: d.names
      | none => d.names
    return (⟨⟨u.here, capturing, flags, d.free, d.level⟩ :: d.groups, free, names,
      .none v.position⟩, v)

/-- Takes a closing parenthesis. -/
def Draft.closeGroup (d : Draft) (u : Cursor) : Except Fault (Draft × Cursor) :=
  match d.groups with
  | [] => .error (.of .groupNotOpen u.here)
  | g :: groups =>
    let v := u.next
    let node := Node.group ⟨g.span.first, v.position⟩ g.capturing g.flags
      (d.level.close u.position)
    .ok (⟨groups, g.free, d.names, g.around.add node⟩, v)

/-- Takes what the cursor stands at. -/
def Draft.take (d : Draft) (u : Cursor) (c : Char) : Except Fault (Draft × Cursor) :=
  let onLevel : Except Fault (Branches × Cursor) → Except Fault (Draft × Cursor) :=
    Except.map fun (level, v) => ({ d with level := level }, v)
  match c with
  | '(' => d.openGroup u
  | ')' => d.closeGroup u
  | '|' =>
    let v := u.next
    .ok ({ d with level := d.level.bar u.position v.position }, v)
  | '[' => onLevel ((readSet d.free u).map fun (node, v) => (d.level.add node, v))
  | '?' => onLevel (signRepetition 0 (some 1) d.level u)
  | '*' => onLevel (signRepetition 0 none d.level u)
  | '+' => onLevel (signRepetition 1 none d.level u)
  | '{' => onLevel (countedRepetition d.free d.level u)
  | _ => onLevel ((primitive d.free u).map fun (node, v) => (d.level.add node, v))

/-- Reads on to the end. The bound counts parts. -/
def readFrom : Nat → Draft → Cursor → Except Fault Node
  | 0, _, u => .error (.of .groupOpen u.here)
  | bound + 1, d, u =>
    let u := u.skip d.free
    match u.rest with
    | [] =>
      match d.groups with
      | [] => .ok (d.level.close u.position)
      | g :: _ => .error (.of .groupOpen g.span)
    | c :: _ => do
      let (d, v) ← d.take u c
      readFrom bound d v

/-- The parts of a pattern, none of them nested too deep. -/
def read (text : List Char) : Except Fault Node := do
  let node ← readFrom (text.length + 1) ⟨[], false, [], .none .start⟩ ⟨text, .start⟩
  node.checkDepth 0
  return node

end RadarCatalog.Pattern
