import RadarCatalog.Json.Value
import RadarCatalog.Proofs.Numeric.Shortest

/-!
# Written numbers

A `Literal` is a number as it is written: an optional minus, digits without a zero in front of
others, an optional fraction and an optional exponent. Integers and finite numbers are both
written as literals, and a literal is taken apart into just these parts.

* `scan?_text`: taking the text of a literal apart gives its parts;
* `exists_literal_layout`: the layout of a decimal is a literal that reads as the decimal;
* `exists_literal_text`: so is the text of a finite number, which thus reads as the number.
-/

namespace RadarCatalog.Numeric

/-! ## 1. Runs of digits in front of other characters -/

/-- The text does not go on with a digit. -/
def NoDigitAhead (cs : List Char) : Prop := ∀ c ∈ cs.head?, isDigit c = false

theorem takeWhile_digits {ds rest : List Char} (hd : ∀ c ∈ ds, isDigit c = true)
    (hr : NoDigitAhead rest) :
    (ds ++ rest).takeWhile isDigit = ds ∧ (ds ++ rest).dropWhile isDigit = rest := by
  rw [List.takeWhile_append_of_pos hd, List.dropWhile_append_of_pos hd]
  cases rest with
  | nil => simp
  | cons c rest => simp [hr c rfl]

/-! ## 2. Literals -/

/-- A number as it is written. -/
structure Literal where
  negative : Bool
  whole : List Char
  fraction : List Char
  exponent : Option Int
  digits_whole : ∀ c ∈ whole, isDigit c = true
  digits_fraction : ∀ c ∈ fraction, isDigit c = true
  whole_start : whole = ['0'] ∨ ∃ c cs, whole = c :: cs ∧ c ≠ '0'

namespace Literal

/-- The sign: a minus or nothing. -/
def signText (l : Literal) : List Char := if l.negative then ['-'] else []

/-- The fraction with its point, where there is one. -/
def fractionText (l : Literal) : List Char :=
  if l.fraction = [] then [] else '.' :: l.fraction

/-- The exponent with its mark, where there is one. -/
def exponentPart (l : Literal) : List Char :=
  match l.exponent with
  | none => []
  | some e => 'e' :: exponentText e

/-- The text of a literal. -/
def text (l : Literal) : List Char :=
  l.signText ++ (l.whole ++ (l.fractionText ++ l.exponentPart))

/-- The parts of a literal. -/
def numeral (l : Literal) : Numeral := ⟨l.negative, l.whole, l.fraction, l.exponent.getD 0⟩

theorem whole_ne_nil (l : Literal) : l.whole ≠ [] := by
  rcases l.whole_start with h | ⟨c, cs, h, -⟩
  · simp [h]
  · simp [h]

theorem noDigitAhead_exponentPart (l : Literal) : NoDigitAhead l.exponentPart := by
  unfold exponentPart
  split
  · intro c hc
    cases hc
  · intro c hc
    cases hc
    rfl

theorem noDigitAhead_fractionText (l : Literal) :
    NoDigitAhead (l.fractionText ++ l.exponentPart) := by
  unfold fractionText
  split
  · exact l.noDigitAhead_exponentPart
  · intro c hc
    cases hc
    rfl

/-! ## 3. Taking a literal apart -/

theorem splitSign_digits {cs rest : List Char} (hne : cs ≠ [])
    (hd : ∀ c ∈ cs, isDigit c = true) : splitSign (cs ++ rest) = (false, cs ++ rest) := by
  cases cs with
  | nil => exact absurd rfl hne
  | cons c cs =>
    have hc := hd c (List.mem_cons_self ..)
    have hm : c ≠ '-' := by
      rintro rfl
      exact absurd hc (by decide)
    have hp : c ≠ '+' := by
      rintro rfl
      exact absurd hc (by decide)
    simp only [List.cons_append]
    unfold splitSign
    split
    · rename_i h
      cases h
      exact absurd rfl hm
    · rename_i h
      cases h
      exact absurd rfl hp
    · rfl

theorem scanExponent?_exponentText (e : Int) :
    scanExponent? ('e' :: exponentText e) = some e := by
  have hd := isDigit_of_mem_digits e.natAbs
  have hne : (digits e.natAbs).isEmpty = false := by
    simpa using digits_ne_nil e.natAbs
  have hall : (digits e.natAbs).all isDigit = true := List.all_eq_true.2 hd
  unfold exponentText
  by_cases h : e < 0
  · rw [if_pos h]
    simp only [scanExponent?, splitSign, hne, hall, ofDigits_digits]
    simp only [decide_true, Bool.true_or, if_true, Bool.not_true, Bool.or_false,
      Bool.false_eq_true, if_false, Option.some.injEq]
    omega
  · rw [if_neg h]
    simp only [scanExponent?, splitSign, hne, hall, ofDigits_digits]
    simp only [decide_true, Bool.true_or, if_true, Bool.not_true, Bool.or_false,
      Bool.false_eq_true, if_false, Option.some.injEq]
    omega

theorem scanExponent?_exponentPart (l : Literal) :
    scanExponent? l.exponentPart = some (l.exponent.getD 0) := by
  unfold exponentPart
  cases l.exponent with
  | none => rfl
  | some e => exact scanExponent?_exponentText e

theorem splitFraction_text (l : Literal) :
    splitFraction (l.fractionText ++ l.exponentPart) = (l.fraction, l.exponentPart) := by
  unfold fractionText
  split
  · rename_i h
    rw [List.nil_append, h]
    unfold exponentPart
    cases l.exponent with
    | none => rfl
    | some e => rfl
  · obtain ⟨h1, h2⟩ := takeWhile_digits l.digits_fraction l.noDigitAhead_exponentPart
    rw [List.cons_append]
    exact Prod.ext h1 h2

theorem splitSign_text (l : Literal) :
    splitSign l.text = (l.negative, l.whole ++ (l.fractionText ++ l.exponentPart)) := by
  unfold text signText
  cases l.negative with
  | true => rfl
  | false =>
    rw [if_neg Bool.false_ne_true, List.nil_append]
    exact splitSign_digits l.whole_ne_nil l.digits_whole

/-- **Taking the text of a literal apart gives its parts.** -/
theorem scan?_text (l : Literal) : Numeral.scan? l.text = some l.numeral := by
  obtain ⟨h1, h2⟩ := takeWhile_digits l.digits_whole l.noDigitAhead_fractionText
  have hne : l.whole.isEmpty = false := by
    simpa using l.whole_ne_nil
  simp only [Numeral.scan?, splitSign_text, h1, h2, splitFraction_text, hne,
    scanExponent?_exponentPart, Bool.false_and, Bool.false_eq_true, if_false, Option.map_some]
  rfl

end Literal

/-! ## 4. The literals of decimals and of finite numbers -/

theorem isDigit_of_mem_zeros {n : Nat} {c : Char} (h : c ∈ List.replicate n '0') :
    isDigit c = true := by
  rw [List.eq_of_mem_replicate h]
  rfl

/-- The first digits of a number, at least one of them, do not start with a zero in front of
    others. -/
theorem take_digits_start (n k : Nat) (hk : 0 < k) :
    (digits n).take k = ['0'] ∨ ∃ c cs, (digits n).take k = c :: cs ∧ c ≠ '0' := by
  obtain ⟨j, rfl⟩ : ∃ j, k = j + 1 := ⟨k - 1, by omega⟩
  rcases Nat.eq_zero_or_pos n with rfl | hn
  · left
    rw [digits_of_lt (by omega), List.take_succ_cons, List.take_nil]
    rfl
  · obtain ⟨c, cs, e, hc⟩ := digits_cons n hn
    exact Or.inr ⟨c, cs.take j, by rw [e, List.take_succ_cons], hc⟩

theorem isDigit_of_mem_zero {c : Char} (h : c ∈ ['0']) : isDigit c = true := by
  rw [List.mem_singleton.1 h]
  rfl

/-- The literal is the layout with the sign of the decimal in front; it reads as the decimal, and
    not as an integer. -/
structure Literal.Lays (l : Literal) (d : Decimal) (layout : List Char) : Prop where
  text : l.signText ++ layout = l.text
  negative : l.negative = d.negative
  value : l.numeral.decimal.toBinary64 = d.toBinary64
  broken : l.fraction ≠ [] ∨ l.exponent ≠ none

section Layout

variable (negative : Bool) (c : Nat) (e : Int)

/-- The point stands behind zeros that follow the digits. -/
theorem lays_whole (he : 0 ≤ e) (hz : c = 0 → e ≤ 0) :
    ∃ l : Literal, l.Lays ⟨negative, c, e⟩
      (digits c ++ List.replicate e.toNat '0' ++ ['.', '0']) := by
  have hstart : digits c ++ List.replicate e.toNat '0' = ['0'] ∨
      ∃ a as, digits c ++ List.replicate e.toNat '0' = a :: as ∧ a ≠ '0' := by
    rcases Nat.eq_zero_or_pos c with rfl | hc
    · left
      have hnone : e.toNat = 0 := by
        have := hz rfl
        omega
      rw [hnone, digits_of_lt (by omega)]
      rfl
    · obtain ⟨a, as, ea, ha⟩ := digits_cons c hc
      exact Or.inr ⟨a, as ++ List.replicate e.toNat '0', by rw [ea]; rfl, ha⟩
  have hdigits : ∀ a ∈ digits c ++ List.replicate e.toNat '0', isDigit a = true := by
    intro a ha
    rcases List.mem_append.1 ha with ha | ha
    · exact isDigit_of_mem_digits c a ha
    · exact isDigit_of_mem_zeros ha
  refine ⟨⟨negative, _, ['0'], none, hdigits, fun _ => isDigit_of_mem_zero, hstart⟩,
    ?_, rfl, ?_, Or.inl (List.cons_ne_nil _ _)⟩
  · simp [Literal.text, Literal.fractionText, Literal.exponentPart]
  · have hshift := toBinary64_shift negative c e (e.toNat + 1)
    rw [← hshift]
    simp only [Literal.numeral, Numeral.decimal, ofDigits_append, ofDigits_digits,
      ofDigits_zeros, ofDigits_singleton, List.length_replicate, List.length_singleton]
    congr 2
    · simp [digitValue, Nat.pow_succ, Nat.mul_assoc]
    · simp only [Option.getD_none]
      push_cast
      omega

/-- The point stands between the digits. -/
theorem lays_between {p : Nat} (hp : ((digits c).length : Int) + e = p) (hpos : 0 < p)
    (hlt : p < (digits c).length) : ∃ l : Literal, l.Lays ⟨negative, c, e⟩
      ((digits c).take p ++ '.' :: (digits c).drop p) := by
  have hdig := isDigit_of_mem_digits c
  have hdrop : (digits c).drop p ≠ [] := by
    rw [Ne, List.drop_eq_nil_iff]
    omega
  refine ⟨⟨negative, (digits c).take p, (digits c).drop p, none,
    fun a ha => hdig a (List.mem_of_mem_take ha), fun a ha => hdig a (List.mem_of_mem_drop ha),
    take_digits_start c p hpos⟩, ?_, rfl, ?_, Or.inl hdrop⟩
  · simp [Literal.text, Literal.fractionText, Literal.exponentPart, hdrop]
  · simp only [Literal.numeral, Numeral.decimal, List.take_append_drop, ofDigits_digits,
      List.length_drop]
    congr 2
    simp only [Option.getD_none]
    omega

/-- Zeros stand between the point and the digits. -/
theorem lays_below {n : Nat} (hn : ((digits c).length : Int) + e = -n) :
    ∃ l : Literal, l.Lays ⟨negative, c, e⟩
      ('0' :: '.' :: List.replicate n '0' ++ digits c) := by
  have hdigits : ∀ a ∈ List.replicate n '0' ++ digits c, isDigit a = true := by
    intro a ha
    rcases List.mem_append.1 ha with ha | ha
    · exact isDigit_of_mem_zeros ha
    · exact isDigit_of_mem_digits c a ha
  have hne : List.replicate n '0' ++ digits c ≠ [] := by
    simp [digits_ne_nil]
  refine ⟨⟨negative, ['0'], _, none, fun _ => isDigit_of_mem_zero, hdigits, Or.inl rfl⟩,
    ?_, rfl, ?_, Or.inl hne⟩
  · simp [Literal.text, Literal.fractionText, Literal.exponentPart, digits_ne_nil]
  · simp only [Literal.numeral, Numeral.decimal, ofDigits_append, ofDigits_digits,
      ofDigits_zeros, ofDigits_singleton, List.length_append, List.length_replicate]
    congr 2
    · simp [digitValue]
    · simp only [Option.getD_none]
      push_cast
      omega

/-- One digit stands in front of the point, and an exponent behind the digits. -/
theorem lays_scaled : ∃ l : Literal, l.Lays ⟨negative, c, e⟩
    ((digits c).take 1 ++ (if (digits c).length = 1 then [] else '.' :: (digits c).drop 1) ++
      'e' :: exponentText (((digits c).length : Int) + e - 1)) := by
  have hdig := isDigit_of_mem_digits c
  have hlen : 0 < (digits c).length := List.length_pos_of_ne_nil (digits_ne_nil c)
  refine ⟨⟨negative, (digits c).take 1, (digits c).drop 1,
    some (((digits c).length : Int) + e - 1), fun a ha => hdig a (List.mem_of_mem_take ha),
    fun a ha => hdig a (List.mem_of_mem_drop ha), take_digits_start c 1 (by omega)⟩,
    ?_, rfl, ?_, Or.inr (Option.some_ne_none _)⟩
  · have hd : (digits c).tail = [] ↔ (digits c).length = 1 := by
      rw [← List.drop_one, List.drop_eq_nil_iff]
      omega
    simp [Literal.text, Literal.fractionText, Literal.exponentPart, hd]
  · simp only [Literal.numeral, Numeral.decimal, List.take_append_drop, ofDigits_digits,
      List.length_drop]
    congr 2
    simp only [Option.getD_some]
    omega

end Layout

/-- **The layout of a decimal is a literal** that reads as the decimal and is not an integer. -/
theorem exists_literal_layout (d : Decimal) (hz : d.coefficient = 0 → d.exponent ≤ 0) :
    ∃ l : Literal, l.Lays d d.layout := by
  obtain ⟨negative, c, e⟩ := d
  have hlen : 0 < (digits c).length := List.length_pos_of_ne_nil (digits_ne_nil c)
  unfold Decimal.layout
  simp only at hz ⊢
  split
  · rename_i h
    simp only [Bool.and_eq_true, decide_eq_true_eq] at h
    exact lays_whole negative c e h.1 hz
  · rename_i hwhole
    split
    · rename_i h
      simp only [Bool.and_eq_true, decide_eq_true_eq] at hwhole h
      exact lays_between negative c e (by omega) (by omega) (by omega)
    · split
      · rename_i h
        simp only [Bool.and_eq_true, decide_eq_true_eq] at h
        exact lays_below negative c e (by omega)
      · exact lays_scaled negative c e

/-- **The text of a finite number is a literal that reads as the number.** -/
theorem exists_literal_text (x : Finite) :
    ∃ l : Literal, x.text = l.text ∧ l.numeral.decimal.toBinary64 = .finite x ∧
      (l.fraction ≠ [] ∨ l.exponent ≠ none) := by
  obtain ⟨l, hl⟩ := exists_literal_layout x.shortest x.shortest_zero
  refine ⟨l, ?_, hl.value.trans (toBinary64_shortest x), hl.broken⟩
  rw [← hl.text]
  unfold Finite.text Literal.signText
  rw [hl.negative]
  simp only
  split
  · rfl
  · rfl

end RadarCatalog.Numeric
