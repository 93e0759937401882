import RadarCatalog.Proofs.Catalog.Layouts

/-!
# Columns of the aligned layout

The widths come out of one pass over all rows. For one column alone, the width is the greatest
length of its cells, so no cell is wider, and some cell is not padded.

* `getElem?_widthsOf`: every width is the one of its column;
* `drop_rowText`: the cells of a column start at the same place in all rows, since the keys and the
  widths before it are the same. Nothing depends on the width of the last column.
-/

namespace RadarCatalog.Catalog

open RadarCatalog.Json

/-! ## 1. Widths -/

/-- The length of a record's cell in a column. -/
def Record.cellLength (k : Nat) (r : Record) : Nat := (r.cells[k]?.getD []).length

/-- The width of a column: the greatest length of its cells. -/
def columnWidth (k : Nat) (records : List Record) : Nat :=
  (records.map (Record.cellLength k)).max?.getD 0

theorem foldl_max_zero (ns : List Nat) : ns.foldl max 0 = ns.max?.getD 0 := by
  cases ns with
  | nil => rfl
  | cons n ns => rw [List.foldl_cons, Nat.zero_max, List.max?_cons', Option.getD_some]

/-- No cell of a column is wider. -/
theorem cellLength_le_columnWidth {k : Nat} {records : List Record} {r : Record}
    (hr : r ∈ records) : r.cellLength k ≤ columnWidth k records := by
  unfold columnWidth
  have hmem : r.cellLength k ∈ records.map (Record.cellLength k) := List.mem_map_of_mem hr
  cases hmax : (records.map (Record.cellLength k)).max? with
  | none =>
    rw [List.max?_eq_none_iff] at hmax
    rw [hmax] at hmem
    cases hmem
  | some width => exact (List.max?_eq_some_iff.1 hmax).2 _ hmem

/-- Some cell of a column is as wide. -/
theorem exists_cellLength_eq {k : Nat} {records : List Record} (h : records ≠ []) :
    ∃ r ∈ records, r.cellLength k = columnWidth k records := by
  unfold columnWidth
  cases hmax : (records.map (Record.cellLength k)).max? with
  | none =>
    rw [List.max?_eq_none_iff, List.map_eq_nil_iff] at hmax
    exact absurd hmax h
  | some width => exact List.mem_map.1 (List.max?_eq_some_iff.1 hmax).1

/-- One column of a pass over the rows. -/
theorem getElem?_foldl_widen {k : Nat} : ∀ {records : List Record} {widths : List Nat} {w : Nat},
    (∀ r ∈ records, r.cells.length = widths.length) → widths[k]? = some w →
      ((records.map Record.cells).foldl widen widths)[k]? =
        some ((records.map (Record.cellLength k)).foldl max w)
  | [], _, _, _, hw => hw
  | r :: records, widths, w, h, hw => by
    have hr : r.cells.length = widths.length := h r List.mem_cons_self
    obtain ⟨hk, _⟩ := List.getElem?_eq_some_iff.1 hw
    have hcell : r.cells[k]? = some r.cells[k] := List.getElem?_eq_getElem (hr ▸ hk)
    have hnext : (widen widths r.cells)[k]? = some (max w (r.cellLength k)) := by
      rw [widen, List.getElem?_zipWith, hw, hcell, Record.cellLength, hcell]
      rfl
    have hlength : (widen widths r.cells).length = widths.length := length_widen hr
    rw [List.map_cons, List.foldl_cons, List.map_cons, List.foldl_cons]
    refine getElem?_foldl_widen ?_ hnext
    intro r' hr'
    exact (h r' (List.mem_cons_of_mem _ hr')).trans hlength.symm

section Widths

variable {c : Catalog} {keys : List String} (h : c.ListsKeys keys)
include h

/-- **Every width is that of its column.** -/
theorem getElem?_widthsOf {k : Nat} (hk : k < keys.length) :
    (c.widthsOf keys)[k]? = some (columnWidth k c.records) := by
  have hcells : ∀ r ∈ c.records, r.cells.length = (List.replicate keys.length 0).length := by
    intro r hr
    rw [r.length_cells, h r hr, List.length_replicate]
  rw [widthsOf, columnWidths, getElem?_foldl_widen hcells (List.getElem?_replicate_of_lt hk),
    foldl_max_zero]
  rfl

/-- **No padding is negative**: no cell is wider than its column. -/
theorem length_le_of_mem_zip {r : Record} (hr : r ∈ c.records) {cell : List Char} {width : Nat}
    (hmem : (cell, width) ∈ r.cells.zip (c.widthsOf keys)) : cell.length ≤ width := by
  obtain ⟨k, hk⟩ := List.mem_iff_getElem?.1 hmem
  obtain ⟨hcell, hwidth⟩ := List.getElem?_zip_eq_some.1 hk
  have hlt : k < keys.length := by
    obtain ⟨hlt, _⟩ := List.getElem?_eq_some_iff.1 hwidth
    rw [length_widthsOf h] at hlt
    exact hlt
  rw [getElem?_widthsOf h hlt] at hwidth
  cases hwidth
  have hle := cellLength_le_columnWidth (k := k) hr
  rw [Record.cellLength, hcell] at hle
  exact hle

end Widths

/-! ## 2. Places -/

/-- The columns of a row: each key with its width. -/
def columnsOf (cells : List (List Char × List Char × Nat)) : List (List Char × Nat) :=
  cells.map (Prod.map id Prod.snd)

/-- How many characters of a row stand before a column: those of the keys and widths before it, with
    a colon, a comma and two spaces each. -/
def placeOf (columns : List (List Char × Nat)) (k : Nat) : Nat :=
  ((columns.take k).map fun c => c.1.length + c.2 + 4).sum

theorem columnsOf_zip {keys values : List (List Char)} {widths : List Nat}
    (h : values.length = widths.length) :
    columnsOf (keys.zip (values.zip widths)) = keys.zip widths := by
  rw [columnsOf, ← List.zip_map_right, List.map_snd_zip (Nat.le_of_eq h.symm)]

section Row

variable {ending key value : List Char} {width : Nat}
  {cells : List (List Char × List Char × Nat)}

theorem rowText_cons (h : cells ≠ []) :
    rowText ((key, value, width) :: cells) = key ++ ':' :: ' ' :: value ++ ',' :: ' ' ::
      List.replicate (width - value.length) ' ' ++ rowText cells := by
  cases cells with
  | nil => exact absurd rfl h
  | cons cell cells => rfl

/-- A cell that fits takes as much room as its key and its width ask for. -/
theorem drop_rowText_cons (h : cells ≠ []) (hle : value.length ≤ width) (n : Nat) :
    (rowText ((key, value, width) :: cells) ++ ending).drop (key.length + width + 4 + n) =
      (rowText cells ++ ending).drop n := by
  have hlength : (key ++ ':' :: ' ' :: value ++ ',' :: ' ' ::
      List.replicate (width - value.length) ' ').length = key.length + width + 4 := by
    simp only [List.length_append, List.length_cons, List.length_replicate]
    omega
  rw [rowText_cons h, List.append_assoc, ← hlength, List.drop_length_add_append]

end Row

/-- **A cell stands at the place of its column**: its key, its value and, unless the row ends there,
    a comma, the padding and the next column. -/
theorem drop_rowText (ending : List Char) {key value : List Char} {width : Nat} :
    ∀ {cells : List (List Char × List Char × Nat)} {k : Nat},
      (∀ c ∈ cells, c.2.1.length ≤ c.2.2) → cells[k]? = some (key, value, width) →
        (rowText cells ++ ending).drop (placeOf (columnsOf cells) k) =
          key ++ ':' :: ' ' :: value ++
            if k + 1 = cells.length then ending
            else ',' :: ' ' :: List.replicate (width - value.length) ' ' ++
              (rowText cells ++ ending).drop (placeOf (columnsOf cells) (k + 1))
  | [], _, _, hcell => by cases hcell
  | [cell], 0, _, hcell => by
    cases hcell
    simp [placeOf, rowText]
  | cell :: next :: cells, 0, hle, hcell => by
    cases hcell
    have hne : next :: cells ≠ [] := List.cons_ne_nil _ _
    have hfirst : value.length ≤ width := hle (key, value, width) List.mem_cons_self
    have hplace : placeOf (columnsOf ((key, value, width) :: next :: cells)) (0 + 1) =
        key.length + width + 4 + 0 := by simp [placeOf, columnsOf]
    rw [hplace, drop_rowText_cons hne hfirst, rowText_cons hne]
    simp [placeOf]
  | (key', value', width') :: cells, k + 1, hle, hcell => by
    have hcell : cells[k]? = some (key, value, width) := hcell
    have hne : cells ≠ [] := by
      rintro rfl
      cases hcell
    have hfirst : value'.length ≤ width' := hle (key', value', width') List.mem_cons_self
    have hplace : ∀ n, placeOf (columnsOf ((key', value', width') :: cells)) (n + 1) =
        key'.length + width' + 4 + placeOf (columnsOf cells) n := by
      intro n
      simp [placeOf, columnsOf]
    have hlength : (k + 1 + 1 = ((key', value', width') :: cells).length) ↔
        k + 1 = cells.length := by
      rw [List.length_cons]
      omega
    have hrest := drop_rowText ending (fun c hc => hle c (List.mem_cons_of_mem _ hc)) hcell
    rw [hplace, hplace, drop_rowText_cons hne hfirst, drop_rowText_cons hne hfirst, hrest]
    simp only [hlength]

end RadarCatalog.Catalog
