import RadarCatalog.Proofs.Catalog.Columns
import RadarCatalog.Proofs.Text.Lines

/-!
# The lines of an aligned text

An aligned text is a line with the opening bracket, the lines of the records with empty lines
between them, and a line with the closing bracket.

* `alignedText_eq`, `linesOf_alignedText`: the text by its lines. A record's line depends on the
  keys, the widths, the record and on whether it is the last; an empty line depends on two
  neighbours alone (`gapsOf_eq_true`).
* `isPlain_of_mem_alignedLines`, `getLast?_ne_of_mem_alignedLines`: tabs and plain characters, and
  no space at an end.
-/

namespace RadarCatalog.Catalog

open RadarCatalog.Json RadarCatalog.Text

/-! ## 1. Lines of records -/

/-- What ends the line of a record. -/
def closing (isLast : Bool) : List Char := if isLast then [' ', '}'] else [' ', '}', ',']

/-- The line of a record. -/
def rowLine (keys : List (List Char)) (widths : List Nat) (r : Record) (isLast : Bool) :
    List Char :=
  '\t' :: '{' :: ' ' :: (rowText (keys.zip (r.cells.zip widths)) ++ closing isLast)

/-- The lines of records without the empty lines. -/
def rowLines (keys : List (List Char)) (widths : List Nat) (records : List Record) :
    List (List Char) :=
  records.mapIdx fun i r => rowLine keys widths r (i + 1 = records.length)

/-- Which records have an empty line before them. -/
def gapsOf : List Record → List Bool
  | [] => []
  | r :: rs => false :: List.zipWith partsTypes (r :: rs) rs

/-- A line, after an empty one if there is a gap. -/
def spaced (gap : Bool) (row : List Char) : List (List Char) := if gap then [[], row] else [row]

/-- All lines of records. -/
def bodyLines (gaps : List Bool) (rows : List (List Char)) : List (List Char) :=
  (List.zipWith spaced gaps rows).flatten

section Lines

variable {keys : List (List Char)} {widths : List Nat}

theorem lineText_eq (r : Record) (isLast : Bool) :
    lineText keys widths r isLast = rowLine keys widths r isLast ++ ['\n'] := by
  cases isLast with
  | true => simp [lineText, rowLine, closing]
  | false => simp [lineText, rowLine, closing]

theorem rowLines_cons (r next : Record) (rs : List Record) :
    rowLines keys widths (r :: next :: rs) =
      rowLine keys widths r false :: rowLines keys widths (next :: rs) := by
  simp [rowLines, List.mapIdx_cons]

/-- The lines of records, after an empty line if there is a gap before the first. -/
theorem linesText_eq : ∀ {r : Record} {rs : List Record} (gap : Bool),
    (if gap then ['\n'] else []) ++ linesText keys widths (r :: rs) =
      ofLines (bodyLines (gap :: List.zipWith partsTypes (r :: rs) rs)
        (rowLines keys widths (r :: rs)))
  | r, [], gap => by
    cases gap with
    | true => simp [linesText, lineText_eq, bodyLines, rowLines, spaced, ofLines]
    | false => simp [linesText, lineText_eq, bodyLines, rowLines, spaced, ofLines]
  | r, next :: rs, gap => by
    have hrest : (if partsTypes r next then ['\n'] else []) ++ linesText keys widths (next :: rs) =
        ofLines (bodyLines (partsTypes r next :: List.zipWith partsTypes (next :: rs) rs)
          (rowLines keys widths (next :: rs))) := linesText_eq _
    rw [linesText, rowLines_cons, List.zipWith_cons_cons, bodyLines, List.zipWith_cons_cons,
      List.flatten_cons, ofLines_append, lineText_eq, List.append_assoc (_ ++ _), hrest]
    cases gap with
    | true => simp [spaced, ofLines, bodyLines]
    | false => simp [spaced, ofLines, bodyLines]

end Lines

/-- The lines of an aligned text. -/
def alignedLines (keys : List String) (records : List Record) : List (List Char) :=
  ['['] :: (bodyLines (gapsOf records) (rowLines (keys.map keyText)
    (columnWidths keys.length (records.map Record.cells)) records) ++ [[']']])

/-- **An aligned text by its lines.** -/
theorem alignedText_eq (keys : List String) (records : List Record) :
    alignedText keys records = ofLines (alignedLines keys records) := by
  cases records with
  | nil => rfl
  | cons r rs =>
    have hbody := @linesText_eq (keys.map keyText)
      (columnWidths keys.length ((r :: rs).map Record.cells)) r rs false
    have hlines : ofLines (alignedLines keys (r :: rs)) = '[' :: '\n' :: (ofLines (bodyLines
        (gapsOf (r :: rs)) (rowLines (keys.map keyText)
          (columnWidths keys.length ((r :: rs).map Record.cells)) (r :: rs))) ++ [']', '\n']) := by
      simp [alignedLines, ofLines]
    rw [hlines, gapsOf, ← hbody]
    rfl

theorem mem_bodyLines {gaps : List Bool} {rows : List (List Char)} {line : List Char}
    (h : line ∈ bodyLines gaps rows) : line = [] ∨ line ∈ rows := by
  obtain ⟨lines, hlines, hline⟩ := List.mem_flatten.1 h
  obtain ⟨i, hi⟩ := List.mem_iff_getElem?.1 hlines
  obtain ⟨gap, row, _, hrow, rfl⟩ := List.getElem?_zipWith_eq_some.1 hi
  have hmem : row ∈ rows := List.mem_of_getElem? hrow
  unfold spaced at hline
  split at hline
  · rcases List.mem_cons.1 hline with rfl | hline
    · exact .inl rfl
    · exact .inr (List.mem_singleton.1 hline ▸ hmem)
  · exact .inr (List.mem_singleton.1 hline ▸ hmem)

/-! ## 2. Empty lines -/

/-- The types of two records are equal as values, or both have none. -/
def SameType (a b : Record) : Prop :=
  Option.Rel (fun s t => s.sameValue t = true) a.type? b.type?

theorem partsTypes_iff {a b : Record} : partsTypes a b = true ↔ ¬ SameType a b := by
  unfold partsTypes SameType
  cases a.type? with
  | none =>
    cases b.type? with
    | none => exact ⟨nofun, fun h => absurd .none h⟩
    | some t => exact ⟨fun _ => nofun, fun _ => rfl⟩
  | some s =>
    cases b.type? with
    | none => exact ⟨fun _ => nofun, fun _ => rfl⟩
    | some t =>
      constructor
      · intro h hrel
        cases hrel with
        | some hst => simp [hst] at h
      · intro h
        cases hst : s.sameValue t with
        | true => exact absurd (.some hst) h
        | false => simp [hst]

theorem length_gapsOf (records : List Record) : (gapsOf records).length = records.length := by
  cases records with
  | nil => rfl
  | cons r rs => simp [gapsOf]

/-- **An empty line stands before a record** exactly if its type is not that of the one before. -/
theorem gapsOf_eq_true {records : List Record} {i : Nat} : (gapsOf records)[i]? = some true ↔
    ∃ j a b, i = j + 1 ∧ records[j]? = some a ∧ records[i]? = some b ∧ ¬ SameType a b := by
  cases records with
  | nil => exact ⟨nofun, nofun⟩
  | cons r rs =>
    cases i with
    | zero => exact ⟨nofun, nofun⟩
    | succ j =>
      rw [gapsOf, List.getElem?_cons_succ, List.getElem?_zipWith_eq_some]
      constructor
      · rintro ⟨a, b, ha, hb, hparts⟩
        exact ⟨j, a, b, rfl, ha, hb, partsTypes_iff.1 hparts⟩
      · rintro ⟨j', a, b, hj, ha, hb, htypes⟩
        cases hj
        exact ⟨a, b, ha, hb, partsTypes_iff.2 htypes⟩

/-! ## 3. The characters of a line -/

theorem all_isPlain_keyText (key : String) : (keyText key).all isPlain = true :=
  List.all_eq_true.2 (isPlain_of_mem_asciiOnly space_le_of_mem_printString)

theorem all_isPlain_of_mem_cells {r : Record} {cell : List Char} (h : cell ∈ r.cells) :
    cell.all isPlain = true := by
  obtain ⟨s, _, rfl⟩ := List.mem_map.1 h
  exact List.all_eq_true.2 (isPlain_of_mem_asciiOnly space_le_of_mem_print)

theorem all_isPlain_rowText : ∀ {cells : List (List Char × List Char × Nat)},
    (∀ c ∈ cells, c.1.all isPlain = true ∧ c.2.1.all isPlain = true) →
      (rowText cells).all isPlain = true
  | [], _ => rfl
  | [(key, value, width)], h => by
    obtain ⟨hkey, hvalue⟩ := h _ List.mem_cons_self
    simp only [rowText, List.all_append, List.all_cons, hkey, hvalue]
    rfl
  | (key, value, width) :: next :: cells, h => by
    obtain ⟨hkey, hvalue⟩ := h _ List.mem_cons_self
    have hrest := all_isPlain_rowText fun c hc => h c (List.mem_cons_of_mem _ hc)
    have hblank : isPlain ' ' = true := rfl
    simp only [rowText, List.all_append, List.all_cons, List.all_replicate, hkey, hvalue, hrest,
      hblank, ite_self]
    rfl

theorem all_isPlain_closing (isLast : Bool) : (closing isLast).all isPlain = true := by
  cases isLast with
  | true => rfl
  | false => rfl

section Line

variable {keys : List String} {widths : List Nat} {r : Record} {isLast : Bool}

/-- Behind its tab a record's line is plain. -/
theorem all_isPlain_tail :
    (rowLine (keys.map keyText) widths r isLast).tail.all isPlain = true := by
  have hrow : (rowText ((keys.map keyText).zip (r.cells.zip widths))).all isPlain = true := by
    apply all_isPlain_rowText
    rintro ⟨key, cell, width⟩ hc
    obtain ⟨hkey, hcell⟩ := List.of_mem_zip hc
    obtain ⟨key', _, rfl⟩ := List.mem_map.1 hkey
    exact ⟨all_isPlain_keyText key', all_isPlain_of_mem_cells (List.of_mem_zip hcell).1⟩
  simp only [rowLine, List.tail_cons, List.all_cons, List.all_append, hrow, all_isPlain_closing]
  rfl

theorem getLast?_rowLine : (rowLine (keys.map keyText) widths r isLast).getLast? =
    some (if isLast then '}' else ',') := by
  have happend : rowLine (keys.map keyText) widths r isLast = ('\t' :: '{' :: ' ' ::
      rowText ((keys.map keyText).zip (r.cells.zip widths))) ++ closing isLast := rfl
  rw [happend, List.getLast?_append]
  cases isLast with
  | true => rfl
  | false => rfl

end Line

section Text

variable {keys : List String} {records : List Record}

/-- What the lines of an aligned text are. -/
theorem mem_alignedLines {line : List Char} (h : line ∈ alignedLines keys records) :
    line = ['['] ∨ line = [']'] ∨ line = [] ∨
      ∃ widths r isLast, line = rowLine (keys.map keyText) widths r isLast := by
  rcases List.mem_cons.1 h with rfl | h
  · exact .inl rfl
  rcases List.mem_append.1 h with h | h
  · rcases mem_bodyLines h with rfl | h
    · exact .inr (.inr (.inl rfl))
    · obtain ⟨i, _, rfl⟩ := List.mem_mapIdx.1 h
      exact .inr (.inr (.inr ⟨_, _, _, rfl⟩))
  · exact .inr (.inl (List.mem_singleton.1 h))

theorem isPlain_of_mem_alignedLines {line : List Char} (h : line ∈ alignedLines keys records) :
    ∀ a ∈ line, a = '\t' ∨ isPlain a = true := by
  intro a ha
  rcases mem_alignedLines h with rfl | rfl | rfl | ⟨widths, r, isLast, rfl⟩
  · rw [List.mem_singleton.1 ha]
    exact .inr rfl
  · rw [List.mem_singleton.1 ha]
    exact .inr rfl
  · cases ha
  · rcases List.mem_cons.1 ha with rfl | ha
    · exact .inl rfl
    · exact .inr (List.all_eq_true.1 all_isPlain_tail a ha)

theorem getLast?_ne_of_mem_alignedLines {line : List Char}
    (h : line ∈ alignedLines keys records) : line.getLast? ≠ some ' ' := by
  rcases mem_alignedLines h with rfl | rfl | rfl | ⟨widths, r, isLast, rfl⟩
  · decide
  · decide
  · decide
  · rw [getLast?_rowLine]
    cases isLast with
    | true => decide
    | false => decide

/-- **The lines of an aligned text** are those that it was made of. -/
theorem linesOf_alignedText :
    linesOf (alignedText keys records) = alignedLines keys records := by
  rw [alignedText_eq]
  refine linesOf_ofLines ?_
  intro line hline a ha
  rcases isPlain_of_mem_alignedLines hline a ha with rfl | hplain
  · decide
  · constructor
    · rintro rfl
      cases hplain
    · rintro rfl
      cases hplain

theorem isAscii_of_mem_alignedText {a : Char} (h : a ∈ alignedText keys records) :
    isAscii a = true ∧ (a.toNat < 0x20 → a = '\n' ∨ a = '\t') := by
  rw [alignedText_eq] at h
  obtain ⟨line, hline, ha⟩ := List.mem_flatMap.1 h
  rcases List.mem_append.1 ha with ha | ha
  · rcases isPlain_of_mem_alignedLines hline a ha with rfl | hplain
    · exact ⟨rfl, fun _ => .inr rfl⟩
    · refine ⟨isAscii_of_isPlain hplain, ?_⟩
      simp only [isPlain, Bool.and_eq_true, decide_eq_true_eq] at hplain
      omega
  · rw [List.mem_singleton.1 ha]
    exact ⟨rfl, fun _ => .inl rfl⟩

end Text

end RadarCatalog.Catalog
