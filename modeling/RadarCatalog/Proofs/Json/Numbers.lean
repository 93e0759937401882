import RadarCatalog.Proofs.Json.Characters
import RadarCatalog.Proofs.Json.Scan
import RadarCatalog.Proofs.Numeric.Literal

/-!
# Numbers in a JSON text

The scanner takes a literal to its end and stops in a phase in which a number may end; the literal
of a number is taken for that number.

* `moves_literal`: the run over a literal;
* `ofText?_text`: the text of a number is taken for the number;
* `reads_number`: so the text of a number is read as its token;
* `plain_of_mem_number`: and it is plain, without spaces.
-/

namespace RadarCatalog.Json

open RadarCatalog.Numeric

/-! ## 1. Runs of digits -/

/-- A digit is the character of its value. -/
theorem eq_digitChar {c : Char} (h : isDigit c = true) :
    ∃ d, d < 10 ∧ c = digitChar d := by
  simp only [isDigit, Bool.and_eq_true, decide_eq_true_eq] at h
  refine ⟨c.toNat - 48, by omega, ?_⟩
  unfold digitChar
  rw [show 48 + (c.toNat - 48) = c.toNat by omega, Char.ofNat_toNat]

theorem start_zero : Scan.start '0' = ([], .number .zero ['0']) := rfl

theorem start_digitChar : ∀ d, d < 10 → digitChar d ≠ '0' →
    Scan.start (digitChar d) = ([], .number .whole [digitChar d]) := by decide

/-- A digit other than zero starts the whole part of a number. -/
theorem start_digit {c : Char} (hc : isDigit c = true) (h0 : c ≠ '0') :
    Scan.start c = ([], .number .whole [c]) := by
  obtain ⟨d, hd, rfl⟩ := eq_digitChar hc
  exact start_digitChar d hd h0

/-- A character that goes on with a number takes the scanner to the next phase. -/
theorem step_number {phase phase' : NumberPhase} {c : Char} (text : List Char)
    (h : phase.next c = some (.ok phase')) :
    (Scan.number phase text).step c = ([], .number phase' (c :: text)) := by
  simp only [Scan.step, h]

/-- The phases that a digit does not change. -/
def NumberPhase.Absorbs (phase : NumberPhase) : Prop :=
  ∀ c, isDigit c = true → phase.next c = some (.ok phase)

theorem absorbs_whole : NumberPhase.whole.Absorbs := by
  intro c hc
  simp [NumberPhase.next, hc]

theorem absorbs_fraction : NumberPhase.fraction.Absorbs := by
  intro c hc
  simp [NumberPhase.next, hc]

theorem absorbs_exponent : NumberPhase.exponent.Absorbs := by
  intro c hc
  simp [NumberPhase.next, hc]

theorem moves_digits {phase : NumberPhase} (hp : phase.Absorbs) :
    ∀ (ds : List Char) (text : List Char), (∀ c ∈ ds, isDigit c = true) →
      Moves (.number phase text) ds (.number phase (ds.reverse ++ text))
  | [], text, _ => Moves.refl _
  | d :: ds, text, h => by
    have hd := h d (List.mem_cons_self ..)
    have ih := moves_digits hp ds (d :: text) fun c hc => h c (List.mem_cons_of_mem _ hc)
    rw [List.reverse_cons, List.append_assoc]
    exact Moves.cons (step_number text (hp d hd)) ih

/-- One character that changes the phase, and digits that keep the new one. -/
theorem moves_mark_digits {phase phase' : NumberPhase} {c : Char} {ds : List Char}
    (text : List Char) (hp : phase'.Absorbs) (hc : phase.next c = some (.ok phase'))
    (hd : ∀ c ∈ ds, isDigit c = true) :
    Moves (.number phase text) (c :: ds) (.number phase' ((c :: ds).reverse ++ text)) := by
  rw [List.reverse_cons, List.append_assoc]
  exact Moves.cons (step_number text hc) (moves_digits hp ds (c :: text) hd)

/-! ## 2. The parts of a literal -/

/-- The run over the sign and the digits in front of the point. -/
theorem moves_whole (l : Literal) : ∃ phase, (phase = .zero ∨ phase = .whole) ∧
    Moves .between (l.signText ++ l.whole) (.number phase (l.signText ++ l.whole).reverse) := by
  have hd := l.digits_whole
  unfold Literal.signText
  rcases l.whole_start with h | ⟨c, cs, h, h0⟩
  · refine ⟨.zero, Or.inl rfl, ?_⟩
    rw [h]
    cases l.negative with
    | true => exact Moves.cons (c := '-') rfl (Moves.single rfl)
    | false => exact Moves.single start_zero
  · refine ⟨.whole, Or.inr rfl, ?_⟩
    rw [h] at hd ⊢
    have hc : isDigit c = true := hd c (List.mem_cons_self ..)
    have hcs : ∀ a ∈ cs, isDigit a = true := fun a ha => hd a (List.mem_cons_of_mem _ ha)
    cases l.negative with
    | true =>
      have hn : NumberPhase.sign.next c = some (.ok .whole) := by
        simp [NumberPhase.next, h0, hc]
      have hm := moves_mark_digits ['-'] absorbs_whole hn hcs
      have hr : ((c :: cs).reverse ++ ['-']) = (['-'] ++ (c :: cs)).reverse := by simp
      rw [hr] at hm
      exact Moves.cons (c := '-') rfl hm
    | false =>
      have hm := moves_digits absorbs_whole cs [c] hcs
      rw [← List.reverse_cons] at hm
      exact Moves.cons (start_digit hc h0) hm

/-- The run over the fraction. -/
theorem moves_fraction (l : Literal) (text : List Char) {phase : NumberPhase}
    (hp : phase = .zero ∨ phase = .whole) :
    ∃ phase', (phase' = .zero ∨ phase' = .whole ∨ phase' = .fraction) ∧
      Moves (.number phase text) l.fractionText
        (.number phase' (l.fractionText.reverse ++ text)) := by
  have hd := l.digits_fraction
  unfold Literal.fractionText
  split
  · exact ⟨phase, hp.imp id Or.inl, Moves.refl _⟩
  · rename_i hne
    refine ⟨.fraction, Or.inr (Or.inr rfl), ?_⟩
    cases h : l.fraction with
    | nil => exact absurd h hne
    | cons c cs =>
      rw [h] at hd
      have hpoint : phase.next '.' = some (.ok .point) := by
        rcases hp with rfl | rfl
        · rfl
        · rfl
      have hc : NumberPhase.point.next c = some (.ok .fraction) := by
        simp [NumberPhase.next, hd c (List.mem_cons_self ..)]
      have hm := moves_mark_digits ('.' :: text) absorbs_fraction hc
        fun a ha => hd a (List.mem_cons_of_mem _ ha)
      rw [List.reverse_cons (a := '.'), List.append_assoc]
      exact Moves.cons (step_number text hpoint) hm

/-- The run over the exponent. -/
theorem moves_exponent (l : Literal) (text : List Char) {phase : NumberPhase}
    (hp : phase = .zero ∨ phase = .whole ∨ phase = .fraction) :
    ∃ phase', phase'.complete = true ∧
      Moves (.number phase text) l.exponentPart
        (.number phase' (l.exponentPart.reverse ++ text)) := by
  unfold Literal.exponentPart
  cases l.exponent with
  | none =>
    refine ⟨phase, ?_, Moves.refl _⟩
    rcases hp with rfl | rfl | rfl
    · rfl
    · rfl
    · rfl
  | some e =>
    refine ⟨.exponent, rfl, ?_⟩
    have hmark : phase.next 'e' = some (.ok .mark) := by
      rcases hp with rfl | rfl | rfl
      · rfl
      · rfl
      · rfl
    obtain ⟨sign, hsign, hs⟩ : ∃ sign, exponentText e = sign :: digits e.natAbs ∧
        NumberPhase.mark.next sign = some (.ok .markSign) := by
      refine ⟨_, rfl, ?_⟩
      split
      · rfl
      · rfl
    have hd := isDigit_of_mem_digits e.natAbs
    simp only
    rw [hsign]
    cases h : digits e.natAbs with
    | nil => exact absurd h (digits_ne_nil _)
    | cons c cs =>
      rw [h] at hd
      have hc : NumberPhase.markSign.next c = some (.ok .exponent) := by
        simp [NumberPhase.next, hd c (List.mem_cons_self ..)]
      have hm := moves_mark_digits (sign :: 'e' :: text) absorbs_exponent hc
        fun a ha => hd a (List.mem_cons_of_mem _ ha)
      rw [List.reverse_cons (a := 'e'), List.reverse_cons (a := sign), List.append_assoc,
        List.append_assoc]
      exact Moves.cons (step_number text hmark) (Moves.cons (step_number _ hs) hm)

/-- **The run over a literal** ends in a phase in which a number may end. -/
theorem moves_literal (l : Literal) : ∃ phase : NumberPhase, phase.complete = true ∧
    Moves .between l.text (.number phase l.text.reverse) := by
  obtain ⟨p1, h1, m1⟩ := moves_whole l
  obtain ⟨p2, h2, m2⟩ := moves_fraction l (l.signText ++ l.whole).reverse h1
  obtain ⟨p3, h3, m3⟩ := moves_exponent l (l.fractionText.reverse ++
    (l.signText ++ l.whole).reverse) h2
  refine ⟨p3, h3, ?_⟩
  have m := (m1.trans m2).trans m3
  have ht : l.signText ++ l.whole ++ l.fractionText ++ l.exponentPart = l.text := by
    simp only [Literal.text, List.append_assoc]
  rw [← List.reverse_append, ← List.reverse_append, ht] at m
  exact m

/-! ## 3. The end of a number -/

theorem next_of_complete {phase : NumberPhase} (hp : phase.complete = true) {c : Char}
    (hc : isDigit c = false ∧ c ≠ '.' ∧ c ≠ 'e' ∧ c ≠ 'E') : phase.next c = none := by
  obtain ⟨hd, hpoint, he, hE⟩ := hc
  cases phase with
  | zero => simp [NumberPhase.next, hd, hpoint, he, hE]
  | whole => simp [NumberPhase.next, hd, hpoint, he, hE]
  | fraction => simp [NumberPhase.next, hd, he, hE]
  | exponent => simp [NumberPhase.next, hd]
  | sign => cases hp
  | point => cases hp
  | mark => cases hp
  | markSign => cases hp

/-- A complete number in front of a text that does not go on with it is its token. -/
theorem tokens_number {phase : NumberPhase} (hp : phase.complete = true) {text rest : List Char}
    {s : Scalar} (hs : numberToken text = .scalar s) (hr : Ends rest) :
    (Scan.number phase text).tokens rest = .scalar s :: Scan.between.tokens rest := by
  cases rest with
  | nil => simp [Scan.tokens, Scan.finish, hp, hs]
  | cons c rest =>
    have hn := next_of_complete hp (hr c rfl)
    simp only [Scan.tokens, Scan.step, hn, hs]
    rfl

/-! ## 4. The literals of numbers -/

/-- The literal of an integer. -/
def integerLiteral (z : Int) : Literal where
  negative := decide (z < 0)
  whole := digits z.natAbs
  fraction := []
  exponent := none
  digits_whole := isDigit_of_mem_digits z.natAbs
  digits_fraction := fun _ h => absurd h List.not_mem_nil
  whole_start := by
    rcases Nat.eq_zero_or_pos z.natAbs with h | h
    · left
      rw [h, digits_of_lt (by omega)]
      rfl
    · exact Or.inr (digits_cons z.natAbs h)

theorem text_integerLiteral (z : Int) : (integerLiteral z).text = signedDigits z := by
  simp only [Literal.text, Literal.signText, Literal.fractionText, Literal.exponentPart,
    integerLiteral, signedDigits, decide_eq_true_eq, if_true, List.append_nil]
  split
  · rfl
  · rfl

theorem all_integral {cs : List Char} (h : ∀ c ∈ cs, isDigit c = true) :
    (cs.all fun c => isDigit c || c = '-') = true := by
  rw [List.all_eq_true]
  intro c hc
  rw [h c hc]
  rfl

theorem ofText?_integer (z : Integer) :
    Number.ofText? (signedDigits z.val) = some (.integer z) := by
  have hscan := (integerLiteral z.val).scan?_text
  rw [text_integerLiteral] at hscan
  have hall : ((signedDigits z.val).all fun c => isDigit c || c = '-') = true := by
    have hd := all_integral (isDigit_of_mem_digits z.val.natAbs)
    unfold signedDigits
    split
    · rw [List.all_cons, hd]
      rfl
    · exact hd
  have hin : Number.ofInt? z.val = some (.integer z) := by
    unfold Number.ofInt?
    rw [dif_pos ⟨z.lower, z.upper⟩]
  -- a minus stands in front of a negative integer only, so the magnitude is not zero there
  have hz : (decide (z.val < 0) && decide (z.val.natAbs = 0)) = false := by
    rw [← Bool.decide_and, decide_eq_false_iff_not]
    omega
  have hv :
      (if decide (z.val < 0) = true then -(z.val.natAbs : Int) else z.val.natAbs) = z.val := by
    simp only [decide_eq_true_eq]
    split
    · omega
    · omega
  simp only [Number.ofText?, hscan, hall, Option.bind_some, Number.ofNumeral?, if_true,
    Literal.numeral, integerLiteral, ofDigits_digits, hz, hv, hin, Bool.false_eq_true, if_false,
    Option.some_or]

/-- A literal with a fraction or an exponent is no integer. -/
theorem not_integral (l : Literal) (h : l.fraction ≠ [] ∨ l.exponent ≠ none) :
    (l.text.all fun c => isDigit c || c = '-') = false := by
  rw [List.all_eq_false]
  rcases h with h | h
  · refine ⟨'.', ?_, by decide⟩
    simp [Literal.text, Literal.fractionText, h]
  · refine ⟨'e', ?_, by decide⟩
    cases he : l.exponent with
    | none => exact absurd he h
    | some e => simp [Literal.text, Literal.exponentPart, he]

theorem ofText?_real (x : Finite) : Number.ofText? x.text = some (.real x) := by
  obtain ⟨l, ht, hr, hf⟩ := exists_literal_text x
  rw [ht]
  simp only [Number.ofText?, l.scan?_text, not_integral l hf, Option.bind_some,
    Number.ofNumeral?, Bool.false_eq_true, if_false, hr, Binary64.finite?, Option.map_some]

/-- **The text of a number is taken for the number.** -/
theorem ofText?_text : ∀ n : Number, Number.ofText? n.text = some n
  | .integer z => ofText?_integer z
  | .real x => ofText?_real x

theorem exists_literal_number : ∀ n : Number, ∃ l : Literal, n.text = l.text
  | .integer z => ⟨integerLiteral z.val, (text_integerLiteral z.val).symm⟩
  | .real x => (exists_literal_text x).imp fun _ h => h.1

/-- **The text of a number is read as its token.** -/
theorem reads_number (n : Number) : Reads n.text [.scalar (.number n)] := by
  intro rest hr
  obtain ⟨l, hl⟩ := exists_literal_number n
  obtain ⟨phase, hp, hm⟩ := moves_literal l
  have ht : numberToken l.text.reverse = .scalar (.number n) := by
    unfold numberToken
    rw [List.reverse_reverse, ← hl, ofText?_text]
  rw [hl, hm rest, tokens_number hp ht hr]
  rfl

/-! ## 5. The characters of a number -/

/-- A literal is written with digits and four other characters. -/
theorem mem_literal (l : Literal) {c : Char} (hc : c ∈ l.text) :
    isDigit c = true ∨ c ∈ ['-', '.', 'e', '+'] := by
  simp only [Literal.text, List.mem_append] at hc
  rcases hc with hc | hc | hc | hc
  · unfold Literal.signText at hc
    split at hc
    · rw [List.mem_singleton.1 hc]
      exact .inr (by decide)
    · cases hc
  · exact .inl (l.digits_whole c hc)
  · unfold Literal.fractionText at hc
    split at hc
    · cases hc
    · rcases List.mem_cons.1 hc with rfl | hc
      · exact .inr (by decide)
      · exact .inl (l.digits_fraction c hc)
  · unfold Literal.exponentPart at hc
    split at hc
    · cases hc
    · rename_i e _
      rcases List.mem_cons.1 hc with rfl | hc
      · exact .inr (by decide)
      · unfold exponentText at hc
        rcases List.mem_cons.1 hc with rfl | hc
        · split
          · exact .inr (by decide)
          · exact .inr (by decide)
        · exact .inl (isDigit_of_mem_digits e.natAbs c hc)

theorem plain_digitChar : ∀ d, d < 10 → isPlain (digitChar d) = true ∧ digitChar d ≠ ' ' := by
  decide

/-- The text of a number is plain and has no space. -/
theorem plain_of_mem_number (n : Number) {c : Char} (hc : c ∈ n.text) :
    isPlain c = true ∧ c ≠ ' ' := by
  obtain ⟨l, hl⟩ := exists_literal_number n
  rcases mem_literal l (hl ▸ hc) with hdigit | hother
  · obtain ⟨d, hd, rfl⟩ := eq_digitChar hdigit
    exact plain_digitChar d hd
  · simp only [List.mem_cons, List.not_mem_nil, or_false] at hother
    rcases hother with rfl | rfl | rfl | rfl
    · decide
    · decide
    · decide
    · decide

end RadarCatalog.Json
