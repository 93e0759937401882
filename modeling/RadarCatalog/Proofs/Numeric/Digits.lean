import Mathlib.Algebra.Group.Nat.Defs
import RadarCatalog.Numeric.Digits

/-!
# What a run of digits stands for

* `ofDigits_digits`: reading the digits of a number gives the number;
* `lt_pow_width` and `pow_width_le`: the width of a number is where it lies between powers of ten;
* `digits_cons`: the digits of a positive number do not start with a zero.
-/

namespace RadarCatalog.Numeric

/-! ## 1. One digit -/

theorem isDigit_digitChar : ∀ d, d < 10 → isDigit (digitChar d) = true := by decide

theorem digitValue_digitChar : ∀ d, d < 10 → digitValue (digitChar d) = d := by decide

theorem digitChar_ne_zero : ∀ d, d < 10 → 0 < d → digitChar d ≠ '0' := by decide

/-! ## 2. Digits of a number -/

/-- The recursion of `digits`: a number below ten, or one with a last digit behind the others. -/
theorem digits_induction {motive : Nat → Prop} (small : ∀ n, n < 10 → motive n)
    (large : ∀ n, 10 ≤ n → motive (n / 10) → motive n) : ∀ n, motive n := by
  intro n
  induction n using Nat.strongRecOn with
  | _ n ih =>
    by_cases h : n < 10
    · exact small n h
    · exact large n (by omega) (ih (n / 10) (by omega))

theorem isDigit_of_mem_digits (n : Nat) : ∀ c ∈ digits n, isDigit c = true := by
  induction n using digits_induction with
  | small n h =>
    rw [digits_of_lt h]
    intro c hc
    rw [List.mem_singleton.1 hc]
    exact isDigit_digitChar n h
  | large n h ih =>
    rw [digits_of_le h]
    intro c hc
    rcases List.mem_append.1 hc with hc | hc
    · exact ih c hc
    · rw [List.mem_singleton.1 hc]
      exact isDigit_digitChar (n % 10) (by omega)

theorem digits_ne_nil (n : Nat) : digits n ≠ [] := by
  by_cases h : n < 10
  · simp [digits_of_lt h]
  · simp [digits_of_le (Nat.le_of_not_lt h)]

/-- The digits of a positive number start with a digit other than zero. -/
theorem digits_cons (n : Nat) (hn : 0 < n) : ∃ c cs, digits n = c :: cs ∧ c ≠ '0' := by
  induction n using digits_induction with
  | small n h => exact ⟨_, _, digits_of_lt h, digitChar_ne_zero n h hn⟩
  | large n h ih =>
    obtain ⟨c, cs, e, hc⟩ := ih (by omega)
    exact ⟨c, cs ++ [digitChar (n % 10)], by rw [digits_of_le h, e]; rfl, hc⟩

/-! ## 3. Reading digits -/

theorem ofDigits_foldl (cs : List Char) (start : Nat) :
    cs.foldl (fun n c => 10 * n + digitValue c) start = start * 10 ^ cs.length + ofDigits cs := by
  induction cs generalizing start with
  | nil => simp [ofDigits]
  | cons c cs ih =>
    simp only [ofDigits, List.foldl_cons, List.length_cons] at *
    rw [ih (10 * start + digitValue c), ih (10 * 0 + digitValue c), Nat.pow_succ, Nat.add_mul]
    simp only [Nat.mul_zero, Nat.zero_add, ← Nat.add_assoc]
    congr 1
    rw [Nat.mul_comm 10 start, Nat.mul_assoc, Nat.mul_comm 10]

theorem ofDigits_append (cs ds : List Char) :
    ofDigits (cs ++ ds) = ofDigits cs * 10 ^ ds.length + ofDigits ds := by
  rw [ofDigits, List.foldl_append, ofDigits_foldl]
  rfl

theorem ofDigits_singleton (c : Char) : ofDigits [c] = digitValue c := by
  simp [ofDigits]

theorem ofDigits_zeros (n : Nat) : ofDigits (List.replicate n '0') = 0 := by
  induction n with
  | zero => rfl
  | succ n ih =>
    rw [List.replicate_succ', ofDigits_append, ih, ofDigits_singleton]
    simp [digitValue]

/-- **Reading the digits of a number gives the number.** -/
theorem ofDigits_digits (n : Nat) : ofDigits (digits n) = n := by
  induction n using digits_induction with
  | small n h => rw [digits_of_lt h, ofDigits_singleton, digitValue_digitChar n h]
  | large n h ih =>
    rw [digits_of_le h, ofDigits_append, ofDigits_singleton, ih,
      digitValue_digitChar (n % 10) (by omega)]
    simp only [List.length_singleton, Nat.pow_one]
    omega

/-! ## 4. The width of a number -/

theorem lt_pow_width (n : Nat) : n < 10 ^ width n := by
  induction n using digits_induction with
  | small n h => rw [width, if_pos h]; omega
  | large n h ih =>
    rw [width, if_neg (by omega), Nat.pow_succ]
    omega

theorem pow_width_le (n : Nat) (hn : 0 < n) : 10 ^ width n ≤ 10 * n := by
  induction n using digits_induction with
  | small n h => rw [width, if_pos h]; omega
  | large n h ih =>
    have := ih (by omega)
    rw [width, if_neg (by omega), Nat.pow_succ]
    omega

/-- A number below a power of ten has no more digits than that. -/
theorem width_le_of_lt {n k : Nat} (hk : 0 < k) (h : n < 10 ^ k) : width n ≤ k := by
  rcases Nat.eq_zero_or_pos n with rfl | hn
  · rw [width, if_pos (by omega)]
    exact hk
  · have h1 : 10 ^ width n < 10 ^ (k + 1) := by
      have := pow_width_le n hn
      rw [Nat.pow_succ]
      omega
    have := (Nat.pow_lt_pow_iff_right (by omega)).1 h1
    omega

/-- A number not below a power of ten has more digits than that. -/
theorem lt_width_of_le {n k : Nat} (h : 10 ^ k ≤ n) : k < width n :=
  (Nat.pow_lt_pow_iff_right (by omega : 1 < 10)).1 (Nat.lt_of_le_of_lt h (lt_pow_width n))

theorem width_mul_ten {n : Nat} (hn : 0 < n) : width (10 * n) = width n + 1 := by
  rw [width, if_neg (by omega), Nat.mul_div_cancel_left n (by omega)]

end RadarCatalog.Numeric
