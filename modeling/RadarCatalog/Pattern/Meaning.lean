import RadarCatalog.Pattern.Basic
import RadarCatalog.Pattern.Node

/-!
# What written patterns mean

`Node.meaning` turns the parts of a written pattern into a pattern, under the flags that hold at
each part.

* Without the flag for whole characters a pattern is about bytes, and none that could match a part
  of a character is accepted.
* With it, what needs more than the ASCII range is refused for want of a table: the named sets,
  properties, and letters of either case.
-/

namespace RadarCatalog.Pattern

/-! ## 1. Flags -/

/-- The flags that change what a part means. -/
structure Flags where
  caseless : Bool
  lines : Bool
  pointAll : Bool
  characters : Bool
  carriage : Bool
deriving DecidableEq

/-- The flags at the start of a pattern. -/
def Flags.standard : Flags := ⟨false, false, false, true, false⟩

/-- The flags after a list of changes. -/
def Flags.change (f : Flags) (items : List FlagItem) : Flags where
  caseless := (flagState? .caseless true items).getD f.caseless
  lines := (flagState? .lines true items).getD f.lines
  pointAll := (flagState? .pointAll true items).getD f.pointAll
  characters := (flagState? .characters true items).getD f.characters
  carriage := (flagState? .carriage true items).getD f.carriage

/-! ## 2. Sets -/

/-- The code points that a complement is taken in. -/
def Flags.all (f : Flags) : Ranges := if f.characters then allCharacters else allBytes

/-- A set with the other case of its letters, where letters of either case are meant. -/
def Flags.fold (f : Flags) (span : Span) (s : CharSet) : Except Fault CharSet :=
  if !f.caseless then .ok s
  else if !f.characters then .ok s.foldAscii
  else if s.caseless then .ok s
  else .error (.of .noCaseTable span)

/-- A set, or its complement, as a part of a pattern. A set of bytes has to stay in the ASCII
    range. -/
def Flags.close (f : Flags) (span : Span) (negated : Bool) (s : CharSet) :
    Except Fault CharSet := do
  let s ← f.fold span s
  let s := if negated then s.complement f.all else s
  if f.characters || s.isAscii then return s else throw (.of .onlyBytes span)

/-- The code of a character in a set. -/
def Flags.code (f : Flags) (l : Literal) : Except Fault Nat :=
  if f.characters || l.char.toNat < 0x80 then .ok l.char.toNat
  else .error (.of (if l.isByte then .onlyBytes else .onlyCharacters) l.span)

/-- A set that a letter behind a backslash names. -/
def Flags.named (f : Flags) (span : Span) (negated : Bool) (name : ClassName) :
    Except Fault CharSet :=
  if f.characters then .error (.of .noClassTable span)
  else
    let s := CharSet.ofRanges name.ranges
    let s := if negated then s.complement f.all else s
    if s.isAscii then .ok s else .error (.of .onlyBytes span)

/-- The name of a property without what does not count in it: letter cases, blanks, dashes, low
    lines, and `is` in front. -/
def Property.plainName (p : Property) : String :=
  let isLetter (low high c : Char) : Bool := c = low || c = high
  let cs := match p.name with
    | a :: b :: cs => if isLetter 'i' 'I' a && isLetter 's' 'S' b then cs else a :: b :: cs
    | cs => cs
  String.ofList ((cs.filter fun c => c ≠ ' ' && c ≠ '_' && c ≠ '-' && c.toNat < 0x80).map
    fun c => if 0x41 ≤ c.toNat && c.toNat ≤ 0x5A then Char.ofNat (c.toNat + 0x20) else c)

/-- The fault in a property: none is known. Three short names are looked up among the values of
    another property alone. -/
def Flags.propertyFault (f : Flags) (span : Span) (p : Property) : Fault :=
  if !f.characters then .of .onlyCharacters span
  else if p.value.isNone && ["cf", "sc", "lc"].contains p.plainName then
    .of .propertyValueUnknown span
  else .of .propertyUnknown span

/-- The two sets of an operation, joined by it. -/
def SetOp.join : SetOp → CharSet → CharSet → CharSet
  | .inter => CharSet.inter
  | .without => CharSet.without
  | .symmetric => CharSet.symmetric

mutual

/-- The characters of a set. -/
def SetNode.meaning (f : Flags) : SetNode → Except Fault CharSet
  | .empty _ => .ok .empty
  | .literal l => (f.code l).map fun n => .ofRanges [(n, n)]
  | .range _ low high => do return .ofRanges [(← f.code low, ← f.code high)]
  | .ascii span negated ranges => f.close span negated (.ofRanges ranges)
  | .named span negated name => f.named span negated name
  | .property span p => .error (f.propertyFault span p)
  | .bracket span negated set => do f.close span negated (← set.meaning f)
  | .union _ items => setMeanings f .empty items
  | .operation _ op left right => do
    let l ← left.meaning f
    let r ← right.meaning f
    let r ← f.fold right.span r
    let l ← f.fold left.span l
    return op.join l r

/-- The characters of some sets, with those found before. -/
def setMeanings (f : Flags) (found : CharSet) : List SetNode → Except Fault CharSet
  | [] => .ok found
  | item :: items => do setMeanings f (found.union (← item.meaning f)) items

end

/-! ## 3. Parts -/

/-- A character that stands for itself, in either case where that is meant. -/
def Flags.literal (f : Flags) (l : Literal) : Except Fault Pattern :=
  if f.characters then
    if f.caseless then .error (.of .noCaseTable l.span) else .ok (.one (.single l.char))
  else if l.isByte && 0x80 ≤ l.char.toNat then .error (.of .onlyBytes l.span)
  else if f.caseless then .ok (.one (CharSet.single l.char).foldAscii)
  else .ok (.one (.single l.char))

/-- Any character but those that end lines, or any at all. -/
def Flags.point (f : Flags) (span : Span) : Except Fault Pattern :=
  if !f.characters then .error (.of .onlyBytes span)
  else
    let ends : Ranges := if f.pointAll then []
      else if f.carriage then [(0xA, 0xA), (0xD, 0xD)]
      else [(0xA, 0xA)]
    .ok (.one (CharSet.complement allCharacters (.ofRanges ends)))

/-- A place. -/
def Flags.anchor (f : Flags) : Anchor → Look
  | .lineStart => if f.lines then .lineStart f.carriage else .textStart
  | .lineEnd => if f.lines then .lineEnd f.carriage else .textEnd
  | .textStart => .textStart
  | .textEnd => .textEnd
  | .boundary => .words f.characters .boundary
  | .noBoundary => .words f.characters .noBoundary
  | .wordStart => .words f.characters .start
  | .wordEnd => .words f.characters .stop
  | .wordStartHalf => .words f.characters .startHalf
  | .wordEndHalf => .words f.characters .stopHalf

/-- The set of a pattern of alternatives that are all sets of characters with a property. -/
def setOf? (holds : CharSet → Bool) : Pattern → Option CharSet
  | .one s => if holds s then some s else none
  | .alt p q =>
    match p.setOf? holds, q.setOf? holds with
    | some s, some t => some (s.union t)
    | _, _ => none
  | _ => none

/-- Alternatives that are one character each are one set, and so are those that are several
    characters each. -/
def joined (p : Pattern) : Pattern :=
  match p.setOf? CharSet.isSingle, p.setOf? fun s => !s.ranges.isEmpty && !s.isSingle with
  | some s, _ | none, some s => .one s
  | none, none => p

mutual

/-- The pattern of a part under the flags, and the flags behind it. -/
def Node.meaning (f : Flags) : Node → Except Fault (Pattern × Flags)
  | .empty _ => .ok (.empty, f)
  | .flags _ items => .ok (.empty, f.change items)
  | .literal l => (f.literal l).map fun p => (p, f)
  | .point span => (f.point span).map fun p => (p, f)
  | .anchor _ a => .ok (.look (f.anchor a), f)
  | .named span negated name => (f.named span negated name).map fun s => (.one s, f)
  | .property span p => .error (f.propertyFault span p)
  | .bracket span negated set => do return (.one (← f.close span negated (← set.meaning f)), f)
  | .repetition _ low high part => do
    let (p, f) ← part.meaning f
    return (.times low high p, f)
  | .group _ capturing flags part => do
    let (p, _) ← part.meaning (f.change flags)
    return (if capturing then .capture p else p, f)
  | .alternatives _ parts => (alternativeMeanings f parts).map fun (p, f) => (p.joined, f)
  | .sequence _ parts => sequenceMeanings f parts

/-- The pattern of alternatives. -/
def alternativeMeanings (f : Flags) : List Node → Except Fault (Pattern × Flags)
  | [] => .ok (.empty, f)
  | [part] => part.meaning f
  | part :: parts => do
    let (p, f) ← part.meaning f
    let (q, f) ← alternativeMeanings f parts
    return (.alt p q, f)

/-- The pattern of parts in a row. -/
def sequenceMeanings (f : Flags) : List Node → Except Fault (Pattern × Flags)
  | [] => .ok (.empty, f)
  | part :: parts => do
    let (p, f) ← part.meaning f
    let (q, f) ← sequenceMeanings f parts
    return (.seq p q, f)

end

/-! ## 4. What cannot be searched for -/

/-- The pattern asks for words that need a table. What is repeated no time at all does not
    count. -/
def needsTable : Pattern → Bool
  | .look (.words needed _) => needed
  | .seq p q | .alt p q => p.needsTable || q.needsTable
  | .times _ high p => high ≠ some 0 && p.needsTable
  | .capture p => p.needsTable
  | _ => false

end RadarCatalog.Pattern
