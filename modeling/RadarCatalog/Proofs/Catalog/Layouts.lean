import RadarCatalog.Catalog.Layout
import RadarCatalog.Proofs.Catalog.Records
import RadarCatalog.Proofs.Json.Values

/-!
# Both layouts as tokens

The padding, the separators and the empty lines of the aligned layout and the indentation of the
plain one are white space, so both texts are read as the tokens of the same JSON list.

* `emits_lineText`, `emits_linesText`: the lines of the aligned layout;
* `render_eq`, `scan_render`: when a text is given, and that it is the tokens of the catalog.
-/

namespace RadarCatalog.Catalog

open RadarCatalog.Json

/-! ## 1. Cells and widths -/

theorem emits_keyText (key : String) : Emits (keyText key) [.scalar (.string key)] :=
  emits_printString spelling_ascii key

theorem reads_valueText (s : Scalar) : Reads (valueText s) [.scalar s] :=
  reads_scalar spelling_ascii s

theorem length_widen : ∀ {widths : List Nat} {cells : List (List Char)},
    cells.length = widths.length → (widen widths cells).length = widths.length := by
  intro widths cells h
  rw [widen, List.length_zipWith, h, Nat.min_self]

/-- There are as many widths as columns, when every row has that many cells. -/
theorem length_columnWidths {columns : Nat} {rows : List (List (List Char))}
    (h : ∀ cells ∈ rows, cells.length = columns) :
    (columnWidths columns rows).length = columns := by
  have hfold : ∀ widths : List Nat, widths.length = columns →
      (rows.foldl widen widths).length = columns := by
    induction rows with
    | nil => exact fun _ hw => hw
    | cons cells rows ih =>
      intro widths hw
      obtain ⟨hcells, hrows⟩ := List.forall_mem_cons.1 h
      exact ih hrows _ ((length_widen (hcells.trans hw.symm)).trans hw)
  exact hfold _ List.length_replicate

/-- A record has one cell for each key. -/
theorem Record.length_cells (r : Record) : r.cells.length = r.keys.length := by
  rw [Record.cells, Fields.values, Record.keys, Fields.keys, List.length_map, List.length_map,
    List.length_map]

/-- The widths of a catalog's columns. -/
def widthsOf (c : Catalog) (keys : List String) : List Nat :=
  columnWidths keys.length (c.records.map Record.cells)

theorem length_widthsOf {c : Catalog} {keys : List String} (h : c.ListsKeys keys) :
    (c.widthsOf keys).length = keys.length := by
  apply length_columnWidths
  intro cells hcells
  obtain ⟨r, hr, rfl⟩ := List.mem_map.1 hcells
  rw [r.length_cells, h r hr]

/-! ## 2. Rows -/

/-- The tokens of a record's fields, without the braces. -/
def rowTokens : Fields Scalar → List Token
  | [] => []
  | (key, s) :: fs =>
    .scalar (.string key) :: .colon :: .scalar s ::
      memberTokens (fs.map fun f => (f.1, .scalar f.2))

theorem tokens_toJson (r : Record) :
    r.toJson.tokens = .objectStart :: rowTokens r.fields ++ [.objectEnd] := by
  obtain ⟨id, fields⟩ := r
  cases fields with
  | nil => rfl
  | cons f fs => simp [Record.toJson, Record.jsonFields, Value.tokens, rowTokens]

/-- A key with its value. -/
theorem reads_cell (key : String) (s : Scalar) :
    Reads (keyText key ++ ':' :: ' ' :: valueText s)
      [.scalar (.string key), .colon, .scalar s] :=
  (emits_keyText key).append_reads
    ((Emits.cons ':' [.colon] rfl (Emits.single ' ' [] rfl)).append_reads
      (reads_valueText s))

/-- **A row is read as the fields of the record**, whatever the widths are. -/
theorem reads_rowText : ∀ (fs : Fields Scalar) (widths : List Nat), widths.length = fs.length →
    Reads (rowText (((Fields.keys fs).map keyText).zip
      (((Fields.values fs).map valueText).zip widths))) (rowTokens fs)
  | [], _, _ => Emits.nil.reads
  | [(key, s)], width :: _, _ => reads_cell key s
  | (key, s) :: (key', s') :: fs, width :: width' :: widths, h => by
    have hlength : (width' :: widths).length = ((key', s') :: fs).length := Nat.succ.inj h
    have hrest := reads_rowText ((key', s') :: fs) (width' :: widths) hlength
    have hcomma := Emits.cons ',' [.comma] rfl
      (Emits.cons ' ' [] rfl (Emits.blanks (width - (valueText s).length)))
    have hends : Ends (',' :: ' ' :: List.replicate (width - (valueText s).length) ' ' ++
        rowText (((Fields.keys ((key', s') :: fs)).map keyText).zip
          (((Fields.values ((key', s') :: fs)).map valueText).zip (width' :: widths)))) :=
      ends_cons (by decide)
    have hall := (reads_cell key s).append (hcomma.append_reads hrest) hends
    simp only [Fields.keys, Fields.values, List.map_cons, List.zip_cons_cons, rowText, rowTokens,
      memberTokens, Value.tokens, List.cons_append, List.nil_append, List.append_assoc] at hall ⊢
    exact hall

/-! ## 3. Lines -/

section Lines

variable {keys : List String} {widths : List Nat} (hwidths : widths.length = keys.length)
include hwidths

/-- A line is the tokens of its record, and a comma unless it is the last. -/
theorem emits_lineText {r : Record} (hr : r.keys = keys) (isLast : Bool) :
    Emits (lineText (keys.map keyText) widths r isLast)
      (r.toJson.tokens ++ if isLast then [] else [.comma]) := by
  have hlength : widths.length = r.fields.length := by
    rw [hwidths, ← hr, Record.keys, Fields.keys, List.length_map]
  have hopen := Emits.cons '\t' [] rfl
    (Emits.cons '{' [.objectStart] rfl (Emits.single ' ' [] rfl))
  have hrow := reads_rowText r.fields widths hlength
  have hclose : Emits (if isLast then [' ', '}', '\n'] else [' ', '}', ',', '\n'])
      (.objectEnd :: if isLast then [] else [.comma]) := by
    cases isLast with
    | true => exact fun _ => rfl
    | false => exact fun _ => rfl
  have hends : Ends (if isLast then [' ', '}', '\n'] else [' ', '}', ',', '\n']) := by
    cases isLast with
    | true => exact ends_cons (by decide)
    | false => exact ends_cons (by decide)
  have hne : (if isLast then [' ', '}', '\n'] else [' ', '}', ',', '\n']) ≠ [] := by
    cases isLast with
    | true => exact List.cons_ne_nil _ _
    | false => exact List.cons_ne_nil _ _
  have hall := hopen.append (hrow.append_emits hclose hends hne)
  simp only [lineText, Record.cells, tokens_toJson, ← hr, Record.keys, List.cons_append,
    List.nil_append, List.append_assoc] at hall ⊢
  exact hall

/-- **The lines of records**: the tokens of the items of a list. -/
theorem emits_linesText : ∀ (r : Record) (rs : List Record), (∀ r' ∈ r :: rs, r'.keys = keys) →
    Emits (linesText (keys.map keyText) widths (r :: rs))
      (r.toJson.tokens ++ itemTokens (rs.map Record.toJson))
  | r, [], h => emits_lineText hwidths (h r List.mem_cons_self) true
  | r, next :: rs, h => by
    obtain ⟨hr, hrs⟩ := List.forall_mem_cons.1 h
    have hline := emits_lineText hwidths hr false
    have hgap : Emits (if partsTypes r next then ['\n'] else []) [] := by
      split
      · exact Emits.single '\n' [] rfl
      · exact Emits.nil
    have hall := hline.append (hgap.append (emits_linesText next rs hrs))
    simp only [linesText, itemTokens, List.map_cons, List.append_assoc, List.nil_append] at hall ⊢
    exact hall

end Lines

/-! ## 4. Texts -/

theorem emits_alignedText {c : Catalog} {keys : List String} (h : c.ListsKeys keys) :
    Emits (alignedText keys c.records) c.toJson.tokens := by
  have hwidths : (columnWidths keys.length (c.records.map Record.cells)).length = keys.length :=
    length_widthsOf h
  have hopen := Emits.cons '[' [.listStart] rfl (Emits.single '\n' [] rfl)
  have hclose := Emits.cons ']' [.listEnd] rfl (Emits.single '\n' [] rfl)
  obtain ⟨records⟩ := c
  cases records with
  | nil => exact hopen.append hclose
  | cons r rs =>
    have hall := (hopen.append (emits_linesText hwidths r rs h)).append hclose
    simp only [alignedText, toJson, List.map_cons, Value.tokens, List.cons_append, List.nil_append,
      List.append_assoc] at hall ⊢
    exact hall

theorem emits_plainText (v : Value) : Emits (asciiOnly (v.pretty 2) ++ ['\n']) v.tokens := by
  have hnl := Emits.single '\n' [] rfl
  have h := (reads_pretty spelling_ascii 2 v).append_emits hnl (ends_cons (by decide))
    (List.cons_ne_nil _ _)
  rw [List.append_nil, ← asciiOnly_eq] at h
  exact h

/-- The characters of a catalog in a layout, with the keys that its records list. -/
def layoutText (c : Catalog) (keys : List String) : Format → List Char
  | .aligned => alignedText keys c.records
  | .plain => asciiOnly (c.toJson.pretty 2) ++ ['\n']

/-- Rendering fails as the schema does, and in no other way. -/
theorem render_eq (c : Catalog) (f : Format) :
    c.render f = c.schema.map fun keys => String.ofList (c.layoutText keys f) := by
  cases f with
  | aligned => rfl
  | plain => rfl

/-- **Every rendered text is the tokens of the catalog**, in both layouts. -/
theorem scan_render {c : Catalog} {f : Format} {text : String} (h : c.render f = .ok text) :
    Token.scan text.toList = c.toJson.tokens := by
  rw [render_eq] at h
  obtain ⟨keys, hkeys, rfl⟩ := map_eq_ok.1 h
  rw [String.toList_ofList]
  cases f with
  | aligned => exact (emits_alignedText (schema_eq_ok hkeys)).reads.scan
  | plain => exact (emits_plainText c.toJson).reads.scan

end RadarCatalog.Catalog
