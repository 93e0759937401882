import RadarCatalog.Proofs.Catalog.AlignedLines
import RadarCatalog.Proofs.Catalog.RoundTrip
import RadarCatalog.Proofs.Json.SameValue

/-!
# One record, one line

Two catalogs that differ in one record have aligned texts that differ in the line of this record, if
the record keeps its type and the columns keep their widths. The last column may change its width,
since nothing is padded behind it.

* `rowLine_congr`: a line does not depend on the width of the last column;
* `gapsOf_congr`: the empty lines depend on the types alone;
* `minimal_diff` is the result; a change of the last value is a case of it.
-/

namespace RadarCatalog.Catalog

open RadarCatalog.Json RadarCatalog.Text

/-! ## 1. Lists that differ at one place -/

/-- The lists agree at all places but one. -/
structure DiffersAt {α : Type} (i : Nat) (xs ys : List α) : Prop where
  length : xs.length = ys.length
  elsewhere : ∀ j, j ≠ i → xs[j]? = ys[j]?

theorem DiffersAt.split {α : Type} {i : Nat} {xs ys : List α} (h : DiffersAt i xs ys)
    (hi : i < xs.length) : ∃ before x y after, before.length = i ∧
      xs = before ++ x :: after ∧ ys = before ++ y :: after := by
  have hi' : i < ys.length := h.length ▸ hi
  have hbefore : ys.take i = xs.take i := by
    apply List.ext_getElem?
    intro j
    rw [List.getElem?_take, List.getElem?_take]
    split
    · rename_i hj
      exact (h.elsewhere j (Nat.ne_of_lt hj)).symm
    · rfl
  have hafter : ys.drop (i + 1) = xs.drop (i + 1) := by
    apply List.ext_getElem?
    intro j
    rw [List.getElem?_drop, List.getElem?_drop]
    exact (h.elsewhere (i + 1 + j) (by omega)).symm
  refine ⟨xs.take i, xs[i], ys[i], xs.drop (i + 1), List.length_take_of_le (Nat.le_of_lt hi), ?_, ?_⟩
  · rw [List.getElem_cons_drop, List.take_append_drop]
  · rw [← hbefore, ← hafter, List.getElem_cons_drop, List.take_append_drop]

/-! ## 2. Types -/

theorem sameType_iff {a b : Record} :
    SameType a b ↔ a.type?.map Scalar.unsigned = b.type?.map Scalar.unsigned :=
  Scalar.rel_sameValue_iff

theorem gapsOf_of_sameType {records records' : List Record} {i : Nat}
    (hlength : records.length = records'.length)
    (h : ∀ (j : Nat) (a b : Record), records[j]? = some a → records'[j]? = some b → SameType a b)
    (hgap : (gapsOf records)[i]? = some true) : (gapsOf records')[i]? = some true := by
  obtain ⟨j, a, b, rfl, ha, hb, hparts⟩ := gapsOf_eq_true.1 hgap
  obtain ⟨hj, _⟩ := List.getElem?_eq_some_iff.1 hb
  rw [hlength] at hj
  have ha' : records'[j]? = some records'[j] := List.getElem?_eq_getElem (by omega)
  have hb' : records'[j + 1]? = some records'[j + 1] := List.getElem?_eq_getElem hj
  refine gapsOf_eq_true.2 ⟨j, _, _, rfl, ha', hb', ?_⟩
  intro hsame
  refine hparts (sameType_iff.2 ?_)
  rw [sameType_iff.1 (h j _ _ ha ha'), sameType_iff.1 (h (j + 1) _ _ hb hb')]
  exact sameType_iff.1 hsame

/-- **The empty lines depend on the types alone.** -/
theorem gapsOf_congr {records records' : List Record} (hlength : records.length = records'.length)
    (h : ∀ (j : Nat) (a b : Record), records[j]? = some a → records'[j]? = some b → SameType a b) :
    gapsOf records = gapsOf records' := by
  have hback : ∀ (j : Nat) (a b : Record), records'[j]? = some a → records[j]? = some b →
      SameType a b :=
    fun j a b ha hb => sameType_iff.2 (sameType_iff.1 (h j b a hb ha)).symm
  apply List.ext_getElem
  · rw [length_gapsOf, length_gapsOf, hlength]
  · intro i hi hi'
    have hiff : (gapsOf records)[i]? = some true ↔ (gapsOf records')[i]? = some true :=
      ⟨gapsOf_of_sameType hlength h, gapsOf_of_sameType hlength.symm hback⟩
    rw [List.getElem?_eq_getElem hi, List.getElem?_eq_getElem hi', Option.some.injEq,
      Option.some.injEq] at hiff
    exact Bool.eq_iff_iff.2 hiff

/-! ## 3. Rows -/

/-- **A row does not depend on the width of the last column.** -/
theorem rowText_congr : ∀ {keys values : List (List Char)} {widths widths' : List Nat},
    widths.length = keys.length → widths'.length = keys.length →
      (∀ k, k + 1 < keys.length → widths[k]? = widths'[k]?) →
        rowText (keys.zip (values.zip widths)) = rowText (keys.zip (values.zip widths'))
  | [], _, _, _, _, _, _ => rfl
  | _ :: _, [], _, _, _, _, _ => rfl
  | [_], _ :: _, [_], [_], _, _, _ => by
    simp [rowText]
  | key :: key' :: keys, [value], width :: width₁ :: widths, width' :: width₁' :: widths', _, _, _ =>
    by simp [rowText]
  | key :: key' :: keys, value :: value' :: values, width :: width₁ :: widths,
      width' :: width₁' :: widths', hwidths, hwidths', h => by
    have hfirst : width = width' := by
      have hzero := h 0 (by simp)
      simpa using hzero
    have hrest : rowText ((key' :: keys).zip ((value' :: values).zip (width₁ :: widths))) =
        rowText ((key' :: keys).zip ((value' :: values).zip (width₁' :: widths'))) :=
      rowText_congr (Nat.succ.inj hwidths) (Nat.succ.inj hwidths')
        fun k hk => h (k + 1) (Nat.succ_lt_succ hk)
    simp only [List.zip_cons_cons, rowText, hfirst] at hrest ⊢
    rw [hrest]

section Rows

variable {a b : Catalog} {keys : List String} {i : Nat} (ha : a.ListsKeys keys)
  (hb : b.ListsKeys keys)
include ha hb

theorem rowLine_congr
    (hwidths : ∀ k, k + 1 < keys.length → columnWidth k a.records = columnWidth k b.records)
    (r : Record) (isLast : Bool) :
    rowLine (keys.map keyText) (a.widthsOf keys) r isLast =
      rowLine (keys.map keyText) (b.widthsOf keys) r isLast := by
  have hrow : rowText ((keys.map keyText).zip (r.cells.zip (a.widthsOf keys))) =
      rowText ((keys.map keyText).zip (r.cells.zip (b.widthsOf keys))) := by
    apply rowText_congr
    · rw [List.length_map, length_widthsOf ha]
    · rw [List.length_map, length_widthsOf hb]
    · intro k hk
      rw [List.length_map] at hk
      have hk' : k < keys.length := Nat.lt_of_succ_lt hk
      rw [getElem?_widthsOf ha hk', getElem?_widthsOf hb hk', hwidths k hk]
  rw [rowLine, rowLine, hrow]

/-- The lines of the other records are the same. -/
theorem differsAt_rowLines (hdiff : DiffersAt i a.records b.records)
    (hwidths : ∀ k, k + 1 < keys.length → columnWidth k a.records = columnWidth k b.records) :
    DiffersAt i (rowLines (keys.map keyText) (a.widthsOf keys) a.records)
      (rowLines (keys.map keyText) (b.widthsOf keys) b.records) where
  length := by rw [rowLines, rowLines, List.length_mapIdx, List.length_mapIdx, hdiff.length]
  elsewhere := by
    intro j hj
    rw [rowLines, rowLines, List.getElem?_mapIdx, List.getElem?_mapIdx, hdiff.elsewhere j hj,
      hdiff.length]
    simp only [rowLine_congr ha hb hwidths]

end Rows

/-! ## 4. Lines -/

/-- The line is that of a record: no other line starts with a tab. -/
def isRow (line : List Char) : Bool := line.head? == some '\t'

theorem isRow_of_mem_rowLines {keys : List (List Char)} {widths : List Nat}
    {records : List Record} {row : List Char} (h : row ∈ rowLines keys widths records) :
    isRow row = true := by
  obtain ⟨i, _, rfl⟩ := List.mem_mapIdx.1 h
  rfl

theorem bodyLines_append {gaps gaps' : List Bool} {rows rows' : List (List Char)}
    (h : gaps.length = rows.length) :
    bodyLines (gaps ++ gaps') (rows ++ rows') = bodyLines gaps rows ++ bodyLines gaps' rows' := by
  rw [bodyLines, List.zipWith_append h, List.flatten_append]
  rfl

theorem countP_bodyLines : ∀ {gaps : List Bool} {rows : List (List Char)},
    gaps.length = rows.length → (∀ row ∈ rows, isRow row = true) →
      (bodyLines gaps rows).countP isRow = rows.length
  | [], [], _, _ => rfl
  | gap :: gaps, row :: rows, hlength, h => by
    obtain ⟨hrow, hrows⟩ := List.forall_mem_cons.1 h
    have hrest := countP_bodyLines (Nat.succ.inj hlength) hrows
    have hempty : isRow [] = false := rfl
    rw [bodyLines] at hrest ⊢
    rw [List.zipWith_cons_cons, List.flatten_cons, List.countP_append, hrest]
    cases gap with
    | true => simp [spaced, hrow, hempty, Nat.add_comm]
    | false => simp [spaced, hrow, Nat.add_comm]

/-- The texts have the same lines, but for the line of the record at the index. -/
def OneLineApart (i : Nat) (text text' : String) : Prop :=
  ∃ before row row' after, linesOf text.toList = before ++ row :: after ∧
    linesOf text'.toList = before ++ row' :: after ∧
    before.countP isRow = i ∧ isRow row = true ∧ isRow row' = true

/-- **Rows that differ at one place** are one line of the text. -/
theorem oneLine_of_rows {gaps : List Bool} {rows rows' : List (List Char)} {i : Nat}
    (hdiff : DiffersAt i rows rows') (hi : i < rows.length) (hgaps : gaps.length = rows.length)
    (hrows : ∀ row ∈ rows, isRow row = true) :
    ∃ before row row' after,
      ['['] :: (bodyLines gaps rows ++ [[']']]) = before ++ row :: after ∧
        ['['] :: (bodyLines gaps rows' ++ [[']']]) = before ++ row' :: after ∧
        before.countP isRow = i ∧ row ∈ rows ∧ row' ∈ rows' := by
  obtain ⟨rows₁, row, row', rows₂, hlength, rfl, rfl⟩ := hdiff.split hi
  have hself : DiffersAt i gaps gaps := ⟨rfl, fun _ _ => rfl⟩
  obtain ⟨gaps₁, gap, _, gaps₂, hlength', rfl, _⟩ := hself.split (hgaps ▸ hi)
  have heq : gaps₁.length = rows₁.length := hlength'.trans hlength.symm
  have hcount := countP_bodyLines heq fun row' h => hrows row' (List.mem_append_left _ h)
  have hempty : isRow [] = false := rfl
  have hopen : isRow ['['] = false := rfl
  refine ⟨['['] :: (bodyLines gaps₁ rows₁ ++ if gap then [[]] else []), row, row',
    bodyLines gaps₂ rows₂ ++ [[']']], ?_, ?_, ?_, ?_, ?_⟩
  · rw [bodyLines_append heq]
    cases gap with
    | true => simp [bodyLines, spaced]
    | false => simp [bodyLines, spaced]
  · rw [bodyLines_append heq]
    cases gap with
    | true => simp [bodyLines, spaced]
    | false => simp [bodyLines, spaced]
  · cases gap with
    | true => simp [hcount, hempty, hopen, hlength]
    | false => simp [hcount, hopen, hlength]
  · exact List.mem_append_right _ List.mem_cons_self
  · exact List.mem_append_right _ List.mem_cons_self

/-! ## 5. The last value of a record -/

section Last

variable {r r' : Record} (hkeys : r.keys = r'.keys)
  (hfields : r.fields.dropLast = r'.fields.dropLast)
include hkeys hfields

theorem cellLength_of_dropLast {k : Nat} (hk : k + 1 < r.keys.length) :
    r.cellLength k = r'.cellLength k := by
  have hlength : r.fields.length = r.keys.length := by
    rw [Record.keys, Fields.keys, List.length_map]
  have hlength' : r'.fields.length = r'.keys.length := by
    rw [Record.keys, Fields.keys, List.length_map]
  have hfield : r.fields[k]? = r'.fields[k]? := by
    have h := congrArg (fun fs : Fields Scalar => fs[k]?) hfields
    simp only [List.getElem?_dropLast] at h
    rw [if_pos (by omega), if_pos (by rw [hlength', ← hkeys]; omega)] at h
    exact h
  simp only [Record.cellLength, Record.cells, Fields.values, List.getElem?_map, hfield]

/-- **The type is the same**, unless it is the last value. -/
theorem sameType_of_dropLast (htype : r.keys.getLast? ≠ some "type") : SameType r r' := by
  have hequal : r.type? = r'.type? := by
    have htype' : r'.keys.getLast? ≠ some "type" := hkeys ▸ htype
    rw [Record.type?, Record.get?, ← Fields.get?_dropLast htype, hfields,
      Fields.get?_dropLast htype']
    rfl
  rw [sameType_iff, hequal]

end Last

/-- **The widths of all columns but the last** are the same if the last value of one record is all
    that differs. -/
theorem columnWidth_of_dropLast {a b : Catalog} {keys : List String} {i k : Nat}
    (ha : a.ListsKeys keys) (hb : b.ListsKeys keys) (hdiff : DiffersAt i a.records b.records)
    (hlast : ∀ r r', a.records[i]? = some r → b.records[i]? = some r' →
      r.fields.dropLast = r'.fields.dropLast) (hk : k + 1 < keys.length) :
    columnWidth k a.records = columnWidth k b.records := by
  have hcells : a.records.map (Record.cellLength k) = b.records.map (Record.cellLength k) := by
    apply List.ext_getElem
    · rw [List.length_map, List.length_map, hdiff.length]
    · intro j hj hj'
      rw [List.length_map] at hj hj'
      rw [List.getElem_map, List.getElem_map]
      have hr : a.records[j]? = some a.records[j] := List.getElem?_eq_getElem hj
      have hr' : b.records[j]? = some b.records[j] := List.getElem?_eq_getElem hj'
      by_cases hij : j = i
      · subst hij
        have hkeys := ha _ (List.getElem_mem hj)
        refine cellLength_of_dropLast (hkeys.trans (hb _ (List.getElem_mem hj')).symm)
          (hlast _ _ hr hr') ?_
        rw [hkeys]
        exact hk
      · rw [hdiff.elsewhere j hij, hr'] at hr
        rw [Option.some.inj hr]
  rw [columnWidth, columnWidth, hcells]

/-! ## 6. The result -/

section Result

variable {a b : Catalog} {keys : List String} {i : Nat}

theorem oneLineApart_of_listsKeys (ha : a.ListsKeys keys) (hb : b.ListsKeys keys)
    (hdiff : DiffersAt i a.records b.records) (hi : i < a.size)
    (htype : ∀ r r', a.records[i]? = some r → b.records[i]? = some r' → SameType r r')
    (hwidths : ∀ k, k + 1 < keys.length → columnWidth k a.records = columnWidth k b.records) :
    OneLineApart i (String.ofList (alignedText keys a.records))
      (String.ofList (alignedText keys b.records)) := by
  have htypes : ∀ (j : Nat) (r r' : Record), a.records[j]? = some r → b.records[j]? = some r' →
      SameType r r' := by
    intro j r r' hr hr'
    by_cases hij : j = i
    · subst hij
      exact htype r r' hr hr'
    · rw [hdiff.elsewhere j hij, hr'] at hr
      cases hr
      exact sameType_iff.2 rfl
  have hgaps : gapsOf a.records = gapsOf b.records := gapsOf_congr hdiff.length htypes
  have hrows := differsAt_rowLines ha hb hdiff hwidths
  have hlength : (rowLines (keys.map keyText) (a.widthsOf keys) a.records).length = a.size :=
    List.length_mapIdx
  obtain ⟨before, row, row', after, hlines, hlines', hcount, hmem, hmem'⟩ :=
    oneLine_of_rows hrows (hlength ▸ hi) ((length_gapsOf a.records).trans hlength.symm)
      fun row => isRow_of_mem_rowLines
  refine ⟨before, row, row', after, ?_, ?_, hcount, isRow_of_mem_rowLines hmem,
    isRow_of_mem_rowLines hmem'⟩
  · rw [String.toList_ofList, linesOf_alignedText]
    exact hlines
  · rw [String.toList_ofList, linesOf_alignedText, alignedLines, ← hgaps]
    exact hlines'

/-- **One record, one line.** Two catalogs that list the same keys and differ in one record have
    aligned texts that differ in the line of this record at the most, if its type stays as it is,
    and so does the width of every column but the last. That is always so if the record differs in
    its last value alone, and this is not its type. -/
theorem minimal_diff (ha : a.schema = .ok keys) (hb : b.schema = .ok keys)
    (hdiff : DiffersAt i a.records b.records) (hi : i < a.size) :
    ∃ text text', a.render .aligned = .ok text ∧ b.render .aligned = .ok text' ∧
      ((∀ r r', a.records[i]? = some r → b.records[i]? = some r' → SameType r r') →
        (∀ k, k + 1 < keys.length → columnWidth k a.records = columnWidth k b.records) →
          OneLineApart i text text') ∧
      ((∀ r r', a.records[i]? = some r → b.records[i]? = some r' →
          r.fields.dropLast = r'.fields.dropLast) →
        keys.getLast? ≠ some "type" → OneLineApart i text text') := by
  have hkeys := schema_eq_ok ha
  have hkeys' := schema_eq_ok hb
  refine ⟨String.ofList (alignedText keys a.records), String.ofList (alignedText keys b.records),
    ?_, ?_, ?_, ?_⟩
  · rw [render_eq, ha]
    rfl
  · rw [render_eq, hb]
    rfl
  · exact oneLineApart_of_listsKeys hkeys hkeys' hdiff hi
  · intro hlast htype
    refine oneLineApart_of_listsKeys hkeys hkeys' hdiff hi ?_ ?_
    · intro r r' hr hr'
      have hr₁ := hkeys r (List.mem_of_getElem? hr)
      have hr₂ := hkeys' r' (List.mem_of_getElem? hr')
      exact sameType_of_dropLast (hr₁.trans hr₂.symm) (hlast r r' hr hr') (hr₁ ▸ htype)
    · intro k hk
      exact columnWidth_of_dropLast hkeys hkeys' hdiff hlast hk

end Result

/-- The record of the example with a note. -/
def notedRecord : Record :=
  { exampleRecord with
    fields := Fields.put "note" (.string "moved in March") exampleRecord.fields }

/-- A note, in the last column, changes one line of three records. -/
theorem minimal_diff_example : ∃ text text',
    Catalog.render ⟨[exampleRecord, exampleRecord, exampleRecord]⟩ .aligned = .ok text ∧
      Catalog.render ⟨[exampleRecord, notedRecord, exampleRecord]⟩ .aligned = .ok text' ∧
        OneLineApart 1 text text' := by
  have hdiff : DiffersAt 1 [exampleRecord, exampleRecord, exampleRecord]
      [exampleRecord, notedRecord, exampleRecord] := by
    refine ⟨rfl, ?_⟩
    intro j hj
    match j with
    | 0 => rfl
    | 1 => exact absurd rfl hj
    | j + 2 => rfl
  have hschema : Catalog.schema ⟨[exampleRecord, exampleRecord, exampleRecord]⟩ =
      .ok exampleRecord.keys := by decide
  have hschema' : Catalog.schema ⟨[exampleRecord, notedRecord, exampleRecord]⟩ =
      .ok exampleRecord.keys := by decide
  obtain ⟨text, text', htext, htext', _, hlast⟩ :=
    minimal_diff hschema hschema' hdiff (by decide)
  refine ⟨text, text', htext, htext', hlast ?_ (by decide)⟩
  intro r r' hr hr'
  cases hr
  cases hr'
  rfl

end RadarCatalog.Catalog
