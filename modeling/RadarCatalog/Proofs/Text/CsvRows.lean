import RadarCatalog.Text.Csv

/-!
# The rows that a text is written for

A table can be written in many ways: each field with or without quotes, each row with one of three
ends, and with empty lines anywhere. The machine reads the same rows from all of them.

* `FieldText`, `RowText`, `RowEnd`, `TableText`: the ways of writing a field, a row and its end, and a
  table;
* `run_fieldText`, `run_rowText`, `run_tableText`: what the machine does on such a text. A field
  leaves it outside quotes, with the field under way; a row and its end add the row;
* `rows_of_tableText`: so the rows of a text are those that it was written for.
-/

namespace RadarCatalog.Csv

/-! ## 1. Written tables -/

/-- Quotes are doubled. -/
def doubled (cs : List Char) : List Char := cs.flatMap fun c => if c = '"' then ['"', '"'] else [c]

/-- The character stands for itself without quotes. -/
def isBare (c : Char) : Bool := c ≠ ',' && c ≠ '"' && !Reader.isRowEnd c

/-- The ways of writing a field. -/
inductive FieldText (field : String) : List Char → Prop
  | bare : field.toList.all isBare = true → FieldText field field.toList
  | quoted : FieldText field ('"' :: (doubled field.toList ++ ['"']))

/-- The ways of writing the fields of a row, of which there is at least one. -/
inductive RowText : List String → List Char → Prop
  | last {field : String} {cs : List Char} : FieldText field cs → RowText [field] cs
  | cons {field : String} {row : List String} {cs cs' : List Char} : FieldText field cs →
      RowText row cs' → RowText (field :: row) (cs ++ ',' :: cs')

/-- The three ends of a row. -/
inductive RowEnd : List Char → Prop
  | feed : RowEnd ['\n']
  | carriageReturn : RowEnd ['\r']
  | both : RowEnd ['\r', '\n']

/-- The ways of writing a table. A row with nothing on it would be an empty line, so the row with
    one empty field has quotes. -/
inductive TableText : List (List String) → List Char → Prop
  | nil : TableText [] []
  | blank {rows : List (List String)} {ending cs : List Char} : RowEnd ending →
      TableText rows cs → TableText rows (ending ++ cs)
  | row {row : List String} {rows : List (List String)} {line ending cs : List Char} :
      RowText row line → line ≠ [] → RowEnd ending → TableText rows cs →
        TableText (row :: rows) (line ++ (ending ++ cs))

/-! ## 2. Runs of the machine -/

namespace Reader

/-- The machine after some characters. -/
def run (r : Reader) (cs : List Char) : Reader := cs.foldl step r

theorem run_append (r : Reader) (cs cs' : List Char) : r.run (cs ++ cs') = (r.run cs).run cs' :=
  List.foldl_append

theorem run_cons (r : Reader) (c : Char) (cs : List Char) : r.run (c :: cs) = (r.step c).run cs :=
  rfl

/-- The machine may be about to read a field. -/
def Awaits (phase : Phase) : Prop := phase = .rowStart ∨ phase = .fieldStart

variable {row : List String} {rows : List (List String)}

/-! ### Fields -/

theorem isBare_iff {c : Char} : isBare c = true ↔ c ≠ ',' ∧ c ≠ '"' ∧ isRowEnd c = false := by
  simp [isBare, and_assoc]

theorem step_of_isBare {phase : Phase} (hphase : Awaits phase ∨ phase = .bare) {c : Char}
    (hc : isBare c = true) (field : List Char) :
    (Reader.mk phase field row rows).step c = ⟨.bare, c :: field, row, rows⟩ := by
  obtain ⟨hcomma, hquote, hend⟩ := isBare_iff.1 hc
  have houtside : ∀ r : Reader, r.outside c (r.keep .bare c) = r.keep .bare c := by
    intro r
    rw [outside, if_neg hcomma, hend, if_neg Bool.false_ne_true]
  rcases hphase with (rfl | rfl) | rfl
  · simp only [step, hend, Bool.false_eq_true, if_false, fieldStart, if_neg hquote, houtside]
    rfl
  · simp only [step, fieldStart, if_neg hquote, houtside]
    rfl
  · simp only [step, houtside]
    rfl

theorem run_of_isBare {field : List Char} : ∀ {cs : List Char}, cs.all isBare = true →
    (Reader.mk .bare field row rows).run cs = ⟨.bare, cs.reverse ++ field, row, rows⟩
  | [], _ => rfl
  | c :: cs, h => by
    rw [List.all_cons, Bool.and_eq_true] at h
    rw [run_cons, step_of_isBare (.inr rfl) h.1, run_of_isBare h.2, List.reverse_cons,
      List.append_assoc]
    rfl

/-- Inside quotes the machine keeps every character, and one of two quotes. -/
theorem run_doubled {field : List Char} : ∀ {cs : List Char},
    (Reader.mk .quoted field row rows).run (doubled cs) =
      ⟨.quoted, cs.reverse ++ field, row, rows⟩
  | [] => rfl
  | c :: cs => by
    have hfirst : (Reader.mk .quoted field row rows).run (if c = '"' then ['"', '"'] else [c]) =
        ⟨.quoted, c :: field, row, rows⟩ := by
      split
      · rename_i hc
        rw [hc]
        rfl
      · rename_i hc
        rw [run_cons, step]
        simp only [if_neg hc]
        rfl
    rw [doubled, List.flatMap_cons, run_append, hfirst, ← doubled, run_doubled, List.reverse_cons,
      List.append_assoc]
    rfl

/-- The machine is past a field, or has seen nothing yet of a row. -/
structure Past (phase : Phase) (cs : List Char) (phase' : Phase) : Prop where
  outside : phase' ≠ .quoted
  seen : phase' = .rowStart → phase = .rowStart ∧ cs = []

/-- **A field** leaves the machine outside quotes, with the field under way. -/
theorem run_fieldText {phase : Phase} (hphase : Awaits phase) {field : String} {cs : List Char}
    (h : FieldText field cs) : ∃ phase', Past phase cs phase' ∧
      (Reader.mk phase [] row rows).run cs = ⟨phase', field.toList.reverse, row, rows⟩ := by
  cases h with
  | bare hbare =>
    cases hcs : field.toList with
    | nil =>
      refine ⟨phase, ⟨?_, fun h => ⟨h, rfl⟩⟩, rfl⟩
      rcases hphase with rfl | rfl
      · decide
      · decide
    | cons c cs =>
      rw [hcs, List.all_cons, Bool.and_eq_true] at hbare
      refine ⟨.bare, ⟨by decide, nofun⟩, ?_⟩
      rw [run_cons, step_of_isBare (.inl hphase) hbare.1, run_of_isBare hbare.2,
        List.reverse_cons]
  | quoted =>
    have hopen : (Reader.mk phase [] row rows).step '"' = ⟨.quoted, [], row, rows⟩ := by
      rcases hphase with rfl | rfl
      · rfl
      · rfl
    refine ⟨.quoteSeen, ⟨by decide, nofun⟩, ?_⟩
    rw [run_cons, hopen, run_append, run_doubled, List.append_nil]
    rfl

/-! ### Rows -/

theorem step_comma {r : Reader} (h : r.phase ≠ .quoted) : r.step ',' = r.endField := by
  obtain ⟨phase, field, row, rows⟩ := r
  cases phase with
  | rowStart | fieldStart | bare | quoteSeen => rfl
  | quoted => exact absurd rfl h

theorem step_rowEnd {r : Reader} (hquoted : r.phase ≠ .quoted) (hstart : r.phase ≠ .rowStart)
    {c : Char} (hc : c = '\n' ∨ c = '\r') : r.step c = r.endRow := by
  obtain ⟨phase, field, row, rows⟩ := r
  cases phase with
  | rowStart => exact absurd rfl hstart
  | fieldStart | bare | quoteSeen =>
    rcases hc with rfl | rfl
    · rfl
    · rfl
  | quoted => exact absurd rfl hquoted

/-- A row end does nothing at the start of a row. -/
theorem run_blank {field : List Char} {ending : List Char} (h : RowEnd ending) :
    (Reader.mk .rowStart field row rows).run ending = ⟨.rowStart, field, row, rows⟩ := by
  cases h with
  | feed => rfl
  | carriageReturn => rfl
  | both => rfl

theorem run_rowEnd {r : Reader} (hquoted : r.phase ≠ .quoted) (hstart : r.phase ≠ .rowStart)
    {ending : List Char} (h : RowEnd ending) : r.run ending = r.endRow := by
  cases h with
  | feed => exact step_rowEnd hquoted hstart (.inl rfl)
  | carriageReturn => exact step_rowEnd hquoted hstart (.inr rfl)
  | both =>
    -- the carriage return ends the row, and the line feed behind it is an empty line
    rw [run_cons, step_rowEnd hquoted hstart (.inr rfl)]
    rfl

/-- **The fields of a row** are added to the row, but for the last one, which is under way. -/
theorem run_rowText {fields : List String} {cs : List Char} (h : RowText fields cs) :
    ∀ (phase : Phase) (row : List String), Awaits phase → ∃ phase' before last,
      Past phase cs phase' ∧ (Reader.mk phase [] row rows).run cs =
        ⟨phase', last.toList.reverse, before.reverse ++ row, rows⟩ ∧ fields = before ++ [last] := by
  -- the fields in front have gone to `row`; the last one waits for the comma or the end behind it
  induction h with
  | @last field cs hfield =>
    intro phase row hphase
    obtain ⟨phase', hpast, hrun⟩ := run_fieldText hphase hfield
    exact ⟨phase', [], field, hpast, hrun, rfl⟩
  | @cons field fields cs cs' hfield _ ih =>
    intro phase row hphase
    obtain ⟨phase₁, hpast₁, hrun₁⟩ := @run_fieldText row rows phase hphase field cs hfield
    obtain ⟨phase₂, before, last, hpast₂, hrun₂, rfl⟩ := ih .fieldStart (field :: row) (.inr rfl)
    refine ⟨phase₂, field :: before, last, ⟨hpast₂.outside, ?_⟩, ?_, rfl⟩
    · intro hstart
      exact absurd (hpast₂.seen hstart).1 (by decide)
    · rw [run_append, hrun₁, run_cons, step_comma hpast₁.outside, endField, List.reverse_reverse,
        String.ofList_toList, hrun₂, List.reverse_cons, List.append_assoc]
      rfl

/-! ### Tables -/

/-- **A table** adds its rows. -/
theorem run_tableText {table : List (List String)} {cs : List Char} (h : TableText table cs) :
    ∀ {rows : List (List String)},
      (Reader.mk .rowStart [] [] rows).run cs = ⟨.rowStart, [], [], table.reverse ++ rows⟩ := by
  induction h with
  | nil =>
    intro rows
    rfl
  | blank hending _ ih =>
    intro rows
    rw [run_append, run_blank hending, ih]
  | @row fields table line ending cs hrow hline hending _ ih =>
    intro rows
    obtain ⟨phase, before, last, hpast, hrun, rfl⟩ :=
      @run_rowText rows fields line hrow .rowStart [] (.inl rfl)
    have hstart : phase ≠ .rowStart := fun h => hline (hpast.seen h).2
    rw [run_append, hrun, run_append, run_rowEnd hpast.outside hstart hending, endRow, endField,
      List.reverse_reverse, String.ofList_toList, List.append_nil, List.reverse_cons,
      List.reverse_reverse, ih, List.reverse_cons, List.append_assoc]
    rfl

end Reader

/-! ## 3. Rows of a text -/

/-- The byte order mark. -/
def mark : Char := Char.ofNat 0xFEFF

theorem dropMark_of_head? {cs : List Char} (h : cs.head? ≠ some mark) : dropMark cs = cs := by
  cases cs with
  | nil => rfl
  | cons c cs =>
    have hc : c.toNat ≠ 0xFEFF := by
      intro hc
      refine h (congrArg some ?_)
      rw [mark, ← hc, Char.ofNat_toNat]
    rw [dropMark, if_neg hc]

theorem dropMark_mark (cs : List Char) : dropMark (mark :: cs) = cs := rfl

/-- What a written field starts with. -/
theorem head?_fieldText {field : String} {cs : List Char} (h : FieldText field cs)
    {c : Char} (hc : cs.head? = some c) : c = '"' ∨ c ∈ field.toList := by
  cases h with
  | bare => exact .inr (List.mem_of_head? hc)
  | quoted =>
    cases hc
    exact .inl rfl

theorem head?_rowText {fields : List String} {cs : List Char} (h : RowText fields cs)
    {c : Char} (hc : cs.head? = some c) :
    c = '"' ∨ c = ',' ∨ ∃ field ∈ fields, c ∈ field.toList := by
  cases h with
  | last hfield =>
    exact (head?_fieldText hfield hc).imp id fun h => .inr ⟨_, List.mem_cons_self, h⟩
  | @cons field _ cs _ hfield _ =>
    cases cs with
    | nil =>
      cases hc
      exact .inr (.inl rfl)
    | cons a cs =>
      exact (head?_fieldText hfield hc).imp id fun h => .inr ⟨_, List.mem_cons_self, h⟩

/-- No mark is at the start of a table without one in its first row. -/
theorem head?_tableText {table : List (List String)} {cs : List Char} (h : TableText table cs)
    (hmark : ∀ fields ∈ table.head?, ∀ field ∈ fields, mark ∉ field.toList) :
    cs.head? ≠ some mark := by
  cases h with
  | nil => nofun
  | blank hending =>
    cases hending with
    | feed => exact (by decide : some '\n' ≠ some mark)
    | carriageReturn => exact (by decide : some '\r' ≠ some mark)
    | both => exact (by decide : some '\r' ≠ some mark)
  | @row fields table line ending cs hrow hline _ _ =>
    intro hhead
    have hfirst : line.head? = some mark := by
      cases line with
      | nil => exact absurd rfl hline
      | cons a line => exact hhead
    rcases head?_rowText hrow hfirst with h | h | ⟨field, hfield, h⟩
    · exact absurd h (by decide)
    · exact absurd h (by decide)
    · exact hmark fields rfl field hfield h

/-- **The rows of a text** are those that it was written for, with a mark in front or without. -/
theorem rows_of_tableText {table : List (List String)} {cs : List Char} (h : TableText table cs)
    (hmark : ∀ fields ∈ table.head?, ∀ field ∈ fields, mark ∉ field.toList) {text : String}
    (htext : text.toList = cs ∨ text.toList = mark :: cs) : rows text = table := by
  have hdrop : dropMark text.toList = cs := by
    rcases htext with htext | htext
    · rw [htext, dropMark_of_head? (head?_tableText h hmark)]
    · rw [htext, dropMark_mark]
  have hrun : (Reader.start.run cs).finish = table := by
    rw [Reader.start, Reader.run_tableText h, Reader.finish, List.append_nil,
      List.reverse_reverse]
  rw [rows, hdrop]
  exact hrun

/-- Quotes, row ends and empty lines. -/
example : rows "\"a\"\"b\",c\r\r\n\n\"x\ny\"\n" = [["a\"b", "c"], ["x\ny"]] := by decide

end RadarCatalog.Csv
