import RadarCatalog.Proofs.Json.Numbers
import RadarCatalog.Proofs.Json.Strings

/-!
# Printed values as tokens

`Value.tokens` are the tokens of a value, without any layout. A value printed one item or member a
line is read as these tokens, in every spelling and at every level and indentation.

* `reads_scalar`: the text of a scalar;
* `reads_pretty`: the text of a value.
-/

namespace RadarCatalog.Json

/-! ## 1. The tokens of a value -/

mutual

/-- The tokens of a value. -/
def Value.tokens : Value → List Token
  | .scalar s => [.scalar s]
  | .list [] => [.listStart, .listEnd]
  | .list (v :: vs) => .listStart :: v.tokens ++ itemTokens vs ++ [.listEnd]
  | .object [] => [.objectStart, .objectEnd]
  | .object ((k, v) :: fs) =>
    .objectStart :: .scalar (.string k) :: .colon :: v.tokens ++ memberTokens fs ++ [.objectEnd]

/-- Items after the first. -/
def itemTokens : List Value → List Token
  | [] => []
  | v :: vs => .comma :: v.tokens ++ itemTokens vs

/-- Members after the first. -/
def memberTokens : List (String × Value) → List Token
  | [] => []
  | (k, v) :: fs => .comma :: .scalar (.string k) :: .colon :: v.tokens ++ memberTokens fs

end

/-! ## 2. Scalars -/

/-- No spelling changes the text of a number. -/
theorem Spelling.flatMap_text {write : Char → List Char} (h : Spelling write) (n : Number) :
    n.text.flatMap write = n.text :=
  h.flatMap _ fun _ hc => isAscii_of_isPlain (plain_of_mem_number n hc).1

/-- **The text of a scalar is read as its token.** -/
theorem reads_scalar {write : Char → List Char} (h : Spelling write) :
    ∀ s : Scalar, Reads (s.print.flatMap write) [.scalar s]
  | .null => by
    rw [Scalar.print, h.flatMap _ (List.all_eq_true.1 (by decide))]
    exact emits_null.reads
  | .bool true => by
    rw [Scalar.print, h.flatMap _ (List.all_eq_true.1 (by decide))]
    exact emits_true.reads
  | .bool false => by
    rw [Scalar.print, h.flatMap _ (List.all_eq_true.1 (by decide))]
    exact emits_false.reads
  | .number n => by
    rw [Scalar.print, h.flatMap_text]
    exact reads_number n
  | .string s => (emits_printString h s).reads

/-- The text of a scalar has no control characters. -/
theorem space_le_of_mem_print : ∀ {s : Scalar}, ∀ c ∈ s.print, 0x20 ≤ c.toNat
  | .null => by simp [Scalar.print]
  | .bool true => by simp [Scalar.print]
  | .bool false => by simp [Scalar.print]
  | .number n => by
    intro c hc
    have hplain := (plain_of_mem_number n hc).1
    simp only [isPlain, Bool.and_eq_true, decide_eq_true_eq] at hplain
    exact hplain.1
  | .string s => space_le_of_mem_printString

/-! ## 3. Items and members -/

/-- The character is one that ends a number. -/
theorem ends_cons {c : Char} {cs : List Char}
    (h : Numeric.isDigit c = false ∧ c ≠ '.' ∧ c ≠ 'e' ∧ c ≠ 'E') : Ends (c :: cs) := by
  intro a ha
  cases ha
  exact h

theorem ends_nil : Ends [] := by
  intro c hc
  cases hc

/-- What comes behind an item or a member starts with a comma. -/
theorem Spelling.ends_comma {write : Char → List Char} (h : Spelling write) (cs : List Char) :
    Ends ((',' :: cs).flatMap write) := by
  rw [List.flatMap_cons, h.ascii ',' rfl]
  exact ends_cons (by decide)

/-- A key, the colon behind it, and what is read as a value. -/
theorem reads_keyed {write : Char → List Char} (h : Spelling write) (k : String) {cs : List Char}
    {ts : List Token} (hv : Reads cs ts) :
    Reads ((printString k).flatMap write ++ ':' :: cs) (.scalar (.string k) :: .colon :: ts) :=
  (emits_printString h k).append_reads ((Emits.single ':' [.colon] rfl).append_reads hv)

/-! ## 4. Pretty texts -/

theorem emits_newLine (indent level : Nat) : Emits (newLine indent level) [] :=
  Emits.cons '\n' [] rfl (Emits.blanks (indent * level))

theorem Spelling.newLine {write : Char → List Char} (h : Spelling write) (indent level : Nat) :
    (newLine indent level).flatMap write = Json.newLine indent level := by
  apply h.flatMap
  intro c hc
  rcases List.mem_cons.1 hc with rfl | hc
  · rfl
  · rw [List.eq_of_mem_replicate hc]
    rfl

theorem ends_newLine (indent level : Nat) (cs : List Char) : Ends (newLine indent level ++ cs) :=
  ends_cons (by decide)

section Pretty

variable {write : Char → List Char} (h : Spelling write) (indent : Nat)
include h

/-- A member: its key, the colon and its value. -/
theorem reads_member (k : String) {cs : List Char} {ts : List Token} (hv : Reads cs ts) :
    Reads ((printString k).flatMap write ++ ':' :: ' ' :: cs)
      (.scalar (.string k) :: .colon :: ts) :=
  reads_keyed h k ((Emits.single ' ' [] rfl).append_reads hv)

theorem ends_prettyItems (level : Nat) (vs : List Value) :
    Ends ((prettyItems indent level vs).flatMap write) := by
  cases vs with
  | nil => exact ends_nil
  | cons v vs =>
    rw [prettyItems]
    exact h.ends_comma _

theorem ends_prettyMembers (level : Nat) (fs : List (String × Value)) :
    Ends ((prettyMembers indent level fs).flatMap write) := by
  cases fs with
  | nil => exact ends_nil
  | cons f fs =>
    rw [prettyMembers]
    exact h.ends_comma _

mutual

theorem reads_prettyAt : ∀ (level : Nat) (v : Value),
    Reads ((v.prettyAt indent level).flatMap write) v.tokens
  | level, .scalar s => by
    simp only [Value.prettyAt, Value.tokens]
    exact reads_scalar h s
  | level, .list [] => by
    simp only [Value.prettyAt, Value.tokens, List.flatMap_cons, List.flatMap_nil, h.ascii '[' rfl,
      h.ascii ']' rfl]
    exact (Emits.cons '[' [.listStart] rfl
      (Emits.single ']' [.listEnd] rfl)).reads
  | level, .list (v :: vs) => by
    have hv := reads_prettyAt (level + 1) v
    have hvs := reads_prettyItems (level + 1) vs
    have hopen := Emits.cons '[' [.listStart] rfl (emits_newLine indent (level + 1))
    have hclose := (emits_newLine indent level).append (Emits.single ']' [.listEnd] rfl)
    have hall := hopen.append_reads ((hv.append hvs (ends_prettyItems h indent _ vs)).append
      hclose.reads (ends_newLine _ _ _))
    simp only [Value.prettyAt, Value.tokens, List.flatMap_cons, List.flatMap_append,
      List.flatMap_nil, h.ascii '[' rfl, h.ascii ']' rfl, h.newLine, List.cons_append,
      List.append_assoc, List.nil_append, List.append_nil] at hall ⊢
    exact hall
  | level, .object [] => by
    simp only [Value.prettyAt, Value.tokens, List.flatMap_cons, List.flatMap_nil, h.ascii '{' rfl,
      h.ascii '}' rfl]
    exact (Emits.cons '{' [.objectStart] rfl
      (Emits.single '}' [.objectEnd] rfl)).reads
  | level, .object ((k, v) :: fs) => by
    have hv := reads_member h k (reads_prettyAt (level + 1) v)
    have hfs := reads_prettyMembers (level + 1) fs
    have hopen := Emits.cons '{' [.objectStart] rfl (emits_newLine indent (level + 1))
    have hclose :=
      (emits_newLine indent level).append (Emits.single '}' [.objectEnd] rfl)
    have hall := hopen.append_reads ((hv.append hfs (ends_prettyMembers h indent _ fs)).append
      hclose.reads (ends_newLine _ _ _))
    simp only [Value.prettyAt, Value.tokens, List.flatMap_cons, List.flatMap_append,
      List.flatMap_nil, h.ascii '{' rfl, h.ascii '}' rfl, h.ascii ':' rfl, h.ascii ' ' rfl,
      h.newLine,
      List.cons_append, List.append_assoc, List.nil_append, List.append_nil] at hall ⊢
    exact hall

theorem reads_prettyItems : ∀ (level : Nat) (vs : List Value),
    Reads ((prettyItems indent level vs).flatMap write) (itemTokens vs)
  | level, [] => by
    simp only [prettyItems, itemTokens]
    exact Emits.nil.reads
  | level, v :: vs => by
    have hv := reads_prettyAt level v
    have hvs := reads_prettyItems level vs
    have hcomma := Emits.cons ',' [.comma] rfl (emits_newLine indent level)
    have hall := hcomma.append_reads (hv.append hvs (ends_prettyItems h indent _ vs))
    simp only [prettyItems, itemTokens, List.flatMap_cons, List.flatMap_append, h.ascii ',' rfl,
      h.newLine, List.cons_append, List.append_assoc, List.nil_append, List.append_nil] at hall ⊢
    exact hall

theorem reads_prettyMembers : ∀ (level : Nat) (fs : List (String × Value)),
    Reads ((prettyMembers indent level fs).flatMap write) (memberTokens fs)
  | level, [] => by
    simp only [prettyMembers, memberTokens]
    exact Emits.nil.reads
  | level, (k, v) :: fs => by
    have hv := reads_member h k (reads_prettyAt level v)
    have hfs := reads_prettyMembers level fs
    have hcomma := Emits.cons ',' [.comma] rfl (emits_newLine indent level)
    have hall := hcomma.append_reads (hv.append hfs (ends_prettyMembers h indent _ fs))
    simp only [prettyMembers, memberTokens, List.flatMap_cons, List.flatMap_append, h.ascii ',' rfl,
      h.ascii ':' rfl, h.ascii ' ' rfl, h.newLine, List.cons_append, List.append_assoc,
      List.nil_append, List.append_nil] at hall ⊢
    exact hall

end

/-- **A value printed one item or member a line is read as its tokens.** -/
theorem reads_pretty (v : Value) : Reads ((v.pretty indent).flatMap write) v.tokens :=
  reads_prettyAt h indent 0 v

end Pretty

end RadarCatalog.Json
