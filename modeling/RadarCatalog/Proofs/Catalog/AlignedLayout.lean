import RadarCatalog.Proofs.Catalog.AlignedLines
import RadarCatalog.Proofs.Catalog.RoundTrip

/-!
# The aligned layout

The layout of a consistent catalog as a reader sees it: one line a record, every key at the same
place in all of them, as little padding as that takes, and an empty line where the type changes.

* `Record.LaidOut` is the line of one record, `IsAligned` the whole text;
* `aligned_layout`: the aligned text of every consistent catalog is laid out like this.
-/

namespace RadarCatalog.Catalog

open RadarCatalog.Json RadarCatalog.Text

/-! ## 1. The layout -/

/-- The line of a record, with its keys at the given places. Behind a value stand a comma, at least
    one space and the next key, or the end of the line. -/
structure Record.LaidOut (keys : List String) (places : List Nat) (ending : List Char)
    (r : Record) (row : List Char) : Prop where
  opens : ['\t', '{', ' '] <+: row
  ends : ending <:+ row
  cell : ∀ {k : Nat} {key : String} {value : List Char} {place : Nat}, keys[k]? = some key →
    r.cells[k]? = some value → places[k]? = some place →
      ∃ rest, row.drop place = keyText key ++ ':' :: ' ' :: value ++ rest ∧
        (k + 1 = keys.length → rest = ending) ∧
        ∀ next, places[k + 1]? = some next →
          ∃ n, rest = ',' :: ' ' :: List.replicate n ' ' ++ row.drop next
  plain : ∀ a ∈ row.tail, isPlain a = true

/-- The text of a catalog, with the lines of its records, the records that have an empty line before
    them, and the place of each column. -/
structure IsAligned (c : Catalog) (keys : List String) (text : List Char)
    (rows : List (List Char)) (gaps : List Bool) (places : List Nat) : Prop where
  whole : text = ofLines (['['] :: (bodyLines gaps rows ++ [[']']]))
  lines : linesOf text = ['['] :: (bodyLines gaps rows ++ [[']']])
  rows_length : rows.length = c.size
  gaps_length : gaps.length = c.size
  places_length : places.length = keys.length
  laidOut : ∀ {i : Nat} {r : Record} {row : List Char}, c.records[i]? = some r →
    rows[i]? = some row → r.LaidOut keys places (closing (i + 1 = c.size)) row
  gap : ∀ i, gaps[i]? = some true ↔ ∃ (j : Nat) (a b : Record), i = j + 1 ∧
    c.records[j]? = some a ∧
    c.records[i]? = some b ∧ ¬ SameType a b
  first : ∀ place, places[0]? = some place → place = 3
  tight : c.records ≠ [] → ∀ {k : Nat} {key : String} {place next : Nat}, keys[k]? = some key →
    places[k]? = some place → places[k + 1]? = some next →
      ∃ (i : Nat) (r : Record) (row value : List Char), c.records[i]? = some r ∧
        rows[i]? = some row ∧ r.cells[k]? = some value ∧
        row.drop place = keyText key ++ ':' :: ' ' :: value ++ ',' :: ' ' :: row.drop next
  ascii : ∀ a ∈ text, isAscii a = true ∧ (a.toNat < 0x20 → a = '\n' ∨ a = '\t')
  unspaced : ∀ line ∈ linesOf text, line.getLast? ≠ some ' '

/-! ## 2. One line -/

section Line

variable {c : Catalog} {keys : List String} (h : c.ListsKeys keys)

/-- The place of a column in the lines of a catalog. -/
def placeIn (c : Catalog) (keys : List String) (k : Nat) : Nat :=
  3 + placeOf ((keys.map keyText).zip (c.widthsOf keys)) k

theorem drop_rowLine {keys : List (List Char)} {widths : List Nat} {r : Record} {isLast : Bool}
    (n : Nat) : (rowLine keys widths r isLast).drop (3 + n) =
      (rowText (keys.zip (r.cells.zip widths)) ++ closing isLast).drop n := by
  have hthree : 3 + n = n + 1 + 1 + 1 := by omega
  rw [hthree, rowLine, List.drop_succ_cons, List.drop_succ_cons, List.drop_succ_cons]

include h

/-- **A cell in its line**, with the padding that its column asks for. -/
theorem drop_placeIn {r : Record} (hr : r ∈ c.records) (isLast : Bool) {k : Nat} {key : String}
    {value : List Char} (hkey : keys[k]? = some key) (hvalue : r.cells[k]? = some value) :
    let row := rowLine (keys.map keyText) (c.widthsOf keys) r isLast
    row.drop (c.placeIn keys k) = keyText key ++ ':' :: ' ' :: value ++
      if k + 1 = keys.length then closing isLast
      else ',' :: ' ' :: List.replicate (columnWidth k c.records - value.length) ' ' ++
        row.drop (c.placeIn keys (k + 1)) := by
  intro row
  obtain ⟨hk, _⟩ := List.getElem?_eq_some_iff.1 hkey
  have hwidths : (c.widthsOf keys).length = keys.length := length_widthsOf h
  have hcells : r.cells.length = keys.length := by rw [r.length_cells, h r hr]
  have hcell : ((keys.map keyText).zip (r.cells.zip (c.widthsOf keys)))[k]? =
      some (keyText key, value, columnWidth k c.records) := by
    rw [List.getElem?_zip_eq_some, List.getElem?_zip_eq_some, List.getElem?_map, hkey]
    exact ⟨rfl, hvalue, getElem?_widthsOf h hk⟩
  have hle : ∀ x ∈ (keys.map keyText).zip (r.cells.zip (c.widthsOf keys)),
      x.2.1.length ≤ x.2.2 := by
    rintro ⟨_, cell, width⟩ hx
    exact length_le_of_mem_zip h hr (List.of_mem_zip hx).2
  have hlength : ((keys.map keyText).zip (r.cells.zip (c.widthsOf keys))).length =
      keys.length := by
    rw [List.length_zip, List.length_zip, List.length_map, hcells, hwidths]
    simp only [Nat.min_self]
  have hdrop := drop_rowText (closing isLast) hle hcell
  rw [columnsOf_zip (hcells.trans hwidths.symm), hlength] at hdrop
  simp only [row, placeIn, drop_rowLine]
  exact hdrop

theorem laidOut_rowLine {r : Record} (hr : r ∈ c.records) (isLast : Bool) :
    r.LaidOut keys ((List.range keys.length).map (c.placeIn keys)) (closing isLast)
      (rowLine (keys.map keyText) (c.widthsOf keys) r isLast) where
  opens := ⟨_, rfl⟩
  ends := ⟨'\t' :: '{' :: ' ' :: rowText ((keys.map keyText).zip
    (r.cells.zip (c.widthsOf keys))), rfl⟩
  cell := by
    intro k key value place hkey hvalue hplace
    obtain ⟨hk, _⟩ := List.getElem?_eq_some_iff.1 hkey
    rw [List.getElem?_map, List.getElem?_range hk] at hplace
    cases hplace
    refine ⟨_, drop_placeIn h hr isLast hkey hvalue, ?_, ?_⟩
    · intro hlast
      rw [if_pos hlast]
    · intro next hnext
      obtain ⟨hlt, _⟩ := List.getElem?_eq_some_iff.1 hnext
      rw [List.length_map, List.length_range] at hlt
      rw [List.getElem?_map, List.getElem?_range hlt] at hnext
      cases hnext
      rw [if_neg (Nat.ne_of_lt hlt)]
      exact ⟨_, rfl⟩
  plain := List.all_eq_true.1 all_isPlain_tail

/-- **Some cell of a column is not padded.** -/
theorem exists_tight (hne : c.records ≠ []) {k : Nat} {key : String} (hkey : keys[k]? = some key)
    (hk : k + 1 < keys.length) : ∃ (i : Nat) (r : Record) (value : List Char), c.records[i]? = some r ∧
      r.cells[k]? = some value ∧ ∀ isLast,
        let row := rowLine (keys.map keyText) (c.widthsOf keys) r isLast
        row.drop (c.placeIn keys k) = keyText key ++ ':' :: ' ' :: value ++ ',' :: ' ' ::
          row.drop (c.placeIn keys (k + 1)) := by
  obtain ⟨r, hr, hwidth⟩ := exists_cellLength_eq (k := k) hne
  obtain ⟨i, hi⟩ := List.mem_iff_getElem?.1 hr
  have hlt : k < r.cells.length := by
    rw [r.length_cells, h r hr]
    omega
  have hvalue : r.cells[k]? = some r.cells[k] := List.getElem?_eq_getElem hlt
  refine ⟨i, r, r.cells[k], hi, hvalue, ?_⟩
  intro isLast row
  rw [Record.cellLength, hvalue, Option.getD_some] at hwidth
  have hdrop := drop_placeIn h hr isLast hkey hvalue
  simp only [if_neg (Nat.ne_of_lt hk), ← hwidth, Nat.sub_self] at hdrop
  exact hdrop

end Line

/-! ## 3. The whole text -/

theorem isAligned_alignedText {c : Catalog} {keys : List String} (h : c.ListsKeys keys) :
    IsAligned c keys (alignedText keys c.records)
      (rowLines (keys.map keyText) (c.widthsOf keys) c.records) (gapsOf c.records)
      ((List.range keys.length).map (c.placeIn keys)) where
  whole := alignedText_eq keys c.records
  lines := linesOf_alignedText
  rows_length := List.length_mapIdx
  gaps_length := length_gapsOf c.records
  places_length := by rw [List.length_map, List.length_range]
  laidOut := by
    intro i r row hr hrow
    rw [rowLines, List.getElem?_mapIdx, hr] at hrow
    cases hrow
    exact laidOut_rowLine h (List.mem_of_getElem? hr) _
  gap := fun i => gapsOf_eq_true
  first := by
    intro place hplace
    obtain ⟨hlt, _⟩ := List.getElem?_eq_some_iff.1 hplace
    rw [List.length_map, List.length_range] at hlt
    rw [List.getElem?_map, List.getElem?_range hlt] at hplace
    cases hplace
    rfl
  tight := by
    intro hne k key place next hkey hplace hnext
    obtain ⟨hk, _⟩ := List.getElem?_eq_some_iff.1 hkey
    obtain ⟨hlt, _⟩ := List.getElem?_eq_some_iff.1 hnext
    rw [List.length_map, List.length_range] at hlt
    rw [List.getElem?_map, List.getElem?_range hk] at hplace
    rw [List.getElem?_map, List.getElem?_range hlt] at hnext
    cases hplace
    cases hnext
    obtain ⟨i, r, value, hr, hvalue, hdrop⟩ := exists_tight h hne hkey hlt
    refine ⟨i, r, _, value, hr, ?_, hvalue, hdrop (i + 1 = c.records.length)⟩
    rw [rowLines, List.getElem?_mapIdx, hr]
    rfl
  ascii := fun _ ha => isAscii_of_mem_alignedText ha
  unspaced := by
    intro line hline
    rw [linesOf_alignedText] at hline
    exact getLast?_ne_of_mem_alignedLines hline

/-- **The aligned layout of every consistent catalog.** Each record has one line, with its keys at
    the places of their columns; a column is padded as little as its widest cell allows, and no cell
    is wider than its column; an empty line stands where the type changes, and nowhere else. -/
theorem aligned_layout {c : Catalog} {keys : List String} (h : c.schema = .ok keys) :
    ∃ (text : String) (rows : List (List Char)) (gaps : List Bool) (places : List Nat),
      c.render .aligned = .ok text ∧ IsAligned c keys text.toList rows gaps places ∧
        ∀ r ∈ c.records, ∀ cell width,
          (cell, width) ∈ r.cells.zip (columnWidths keys.length (c.records.map Record.cells)) →
            cell.length ≤ width := by
  have hkeys : c.ListsKeys keys := schema_eq_ok h
  have haligned := isAligned_alignedText hkeys
  have htext : (String.ofList (alignedText keys c.records)).toList = alignedText keys c.records :=
    String.toList_ofList
  rw [← htext] at haligned
  refine ⟨_, _, _, _, ?_, haligned, fun r hr cell width => length_le_of_mem_zip hkeys hr⟩
  rw [render_eq, h]
  rfl

/-- The same site with another kind of radar. -/
def weatherRecord : Record :=
  { exampleRecord with fields := Fields.put "type" (.string "weather") exampleRecord.fields }

/-- An empty line parts the two kinds. -/
theorem aligned_layout_example :
    ∃ (text : String) (rows : List (List Char)) (gaps : List Bool),
      Catalog.render ⟨[exampleRecord, weatherRecord]⟩ .aligned = .ok text ∧
        linesOf text.toList = ['['] :: (bodyLines gaps rows ++ [[']']]) ∧ rows.length = 2 ∧
          gaps[0]? ≠ some true ∧ gaps[1]? = some true := by
  have hschema : Catalog.schema ⟨[exampleRecord, weatherRecord]⟩ = .ok exampleRecord.keys := by
    decide
  obtain ⟨text, rows, gaps, places, htext, haligned, _⟩ := aligned_layout hschema
  have hparts : ¬ SameType exampleRecord weatherRecord := partsTypes_iff.1 (by decide)
  refine ⟨text, rows, gaps, htext, haligned.lines, haligned.rows_length, ?_, ?_⟩
  · intro hfirst
    obtain ⟨j, _, _, hj, _⟩ := (haligned.gap 0).1 hfirst
    cases hj
  · exact (haligned.gap 1).2 ⟨0, _, _, rfl, rfl, rfl, hparts⟩

end RadarCatalog.Catalog
