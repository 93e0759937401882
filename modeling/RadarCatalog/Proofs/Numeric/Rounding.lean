import Mathlib.Data.Int.Log
import Mathlib.Data.Rat.Floor
import Mathlib.Tactic.FieldSimp
import Mathlib.Tactic.Linarith
import Mathlib.Tactic.NormNum
import Mathlib.Tactic.Positivity
import Mathlib.Tactic.Ring
import RadarCatalog.Numeric.Binary64

/-!
# Rounding a quotient

`Binary64.ofRatio` works on a numerator and a denominator. What it gives depends on their quotient
alone, and a quotient that is a finite number already is given as it is.

* `gridExponent_eq`: the grid of a quotient lies 52 binary places below its binary logarithm, and
  never below the least exponent;
* `ofRatio_scale`: a common factor of numerator and denominator makes no difference;
* `ofRatio_exact`: the quotient with exactly the value of a finite number rounds to that number.
-/

namespace RadarCatalog.Numeric

/-! ## 1. The grid -/

theorem scaleDown_pos {den : Nat} (hd : 0 < den) (num : Nat) (shift : Int) :
    0 < (scaleDown num den shift).2 := by
  unfold scaleDown
  split
  · exact Nat.mul_pos hd (Nat.pow_pos (by omega))
  · exact hd

/-- Scaling down is a division by a power of two. -/
theorem scaleDown_ratio (num den : Nat) (shift : Int) :
    ((scaleDown num den shift).1 : ℚ) / (scaleDown num den shift).2 =
      (num : ℚ) / den / 2 ^ shift := by
  unfold scaleDown
  split
  · rename_i h
    obtain ⟨n, rfl⟩ := Int.eq_ofNat_of_zero_le h
    simp only [Int.toNat_natCast, Nat.pow_eq, Nat.cast_mul, Nat.cast_pow, Nat.cast_ofNat,
      zpow_natCast]
    rw [div_div]
  · rename_i h
    obtain ⟨n, rfl⟩ : ∃ n : Nat, shift = -(n : Int) := ⟨(-shift).toNat, by omega⟩
    simp only [neg_neg, Int.toNat_natCast, Nat.pow_eq, Nat.cast_mul, Nat.cast_pow,
      Nat.cast_ofNat, zpow_neg, zpow_natCast]
    rw [div_inv_eq_mul]
    ring

/-- The scaled quotient is below a bound when the quotient is below the bound on the scale. -/
theorem scaleDown_lt_iff {den : Nat} (hd : 0 < den) (num bound : Nat) (shift : Int) :
    (scaleDown num den shift).1 < bound * (scaleDown num den shift).2 ↔
      (num : ℚ) / den < bound * 2 ^ shift := by
  have hpos : (0 : ℚ) < (scaleDown num den shift).2 := by
    exact_mod_cast scaleDown_pos hd num shift
  have hpow : (0 : ℚ) < 2 ^ shift := zpow_pos (by norm_num) shift
  rw [← div_lt_iff₀ hpow, ← scaleDown_ratio, div_lt_iff₀ hpos]
  exact_mod_cast Iff.rfl

/-- A quotient lies within one binary place of the difference of the logarithms. -/
theorem ratio_bounds {num den : Nat} (hn : 0 < num) (hd : 0 < den) :
    (2 : ℚ) ^ ((Nat.log2 num : Int) - Nat.log2 den - 1) ≤ (num : ℚ) / den ∧
      (num : ℚ) / den < 2 ^ ((Nat.log2 num : Int) - Nat.log2 den + 1) := by
  have hdq : (0 : ℚ) < den := by exact_mod_cast hd
  have n1 : (2 : ℚ) ^ Nat.log2 num ≤ num := by exact_mod_cast Nat.log2_self_le (by omega)
  have n2 : (num : ℚ) < 2 ^ (Nat.log2 num + 1) := by exact_mod_cast Nat.lt_log2_self
  have d1 : (2 : ℚ) ^ Nat.log2 den ≤ den := by exact_mod_cast Nat.log2_self_le (by omega)
  have d2 : (den : ℚ) < 2 ^ (Nat.log2 den + 1) := by exact_mod_cast Nat.lt_log2_self
  have p1 : (0 : ℚ) < 2 ^ (Nat.log2 den + 1) := by positivity
  have p2 : (0 : ℚ) < 2 ^ Nat.log2 den := by positivity
  have e1 : (2 : ℚ) ^ ((Nat.log2 num : Int) - Nat.log2 den - 1) =
      2 ^ Nat.log2 num / 2 ^ (Nat.log2 den + 1) := by
    rw [show (Nat.log2 num : Int) - Nat.log2 den - 1 =
        (Nat.log2 num : Int) - ((Nat.log2 den + 1 : Nat) : Int) by push_cast; ring,
      zpow_sub₀ (by norm_num), zpow_natCast, zpow_natCast]
  have e2 : (2 : ℚ) ^ ((Nat.log2 num : Int) - Nat.log2 den + 1) =
      2 ^ (Nat.log2 num + 1) / 2 ^ Nat.log2 den := by
    rw [show (Nat.log2 num : Int) - Nat.log2 den + 1 =
        ((Nat.log2 num + 1 : Nat) : Int) - (Nat.log2 den : Int) by push_cast; ring,
      zpow_sub₀ (by norm_num), zpow_natCast, zpow_natCast]
  constructor
  · rw [e1, div_le_div_iff₀ p1 hdq]
    exact mul_le_mul n1 d2.le hdq.le (le_trans (by positivity) n1)
  · rw [e2, div_lt_div_iff₀ hdq p2]
    exact mul_lt_mul n2 d1 p2 (by positivity)

/-- **The grid of a quotient**: 53 binary digits from its logarithm down, but none below the least
    exponent. -/
theorem gridExponent_eq {num den : Nat} (hn : 0 < num) (hd : 0 < den) :
    gridExponent num den = max (-1074) (Int.log 2 ((num : ℚ) / den) - 52) := by
  have hq : (0 : ℚ) < (num : ℚ) / den := by positivity
  obtain ⟨lo, hi⟩ := ratio_bounds hn hd
  have llo := (Int.zpow_le_iff_le_log (b := 2) (by decide) hq).1
    (by rw [Nat.cast_ofNat]; exact lo)
  have lhi := (Int.lt_zpow_iff_log_lt (b := 2) (by decide) hq).1
    (by rw [Nat.cast_ofNat]; exact hi)
  obtain ⟨guess, hg⟩ : ∃ guess : Int, guess = (Nat.log2 num : Int) - Nat.log2 den - 53 := ⟨_, rfl⟩
  have hdef : gridExponent num den =
      max (-1074) (if (scaleDown num den guess).1 < significandEnd * (scaleDown num den guess).2
        then guess else guess + 1) := by rw [hg]; rfl
  have hfit : (scaleDown num den guess).1 < significandEnd * (scaleDown num den guess).2 ↔
      Int.log 2 ((num : ℚ) / den) < 53 + guess := by
    rw [scaleDown_lt_iff hd, ← Int.lt_zpow_iff_log_lt (b := 2) (by decide) hq,
      show ((significandEnd : Nat) : ℚ) = 2 ^ (53 : Int) by norm_num [significandEnd],
      ← zpow_add₀ (by norm_num)]
    exact_mod_cast Iff.rfl
  -- the guess is 53 below the logarithm or 52, and the comparison tells which
  rw [hdef]
  congr 1
  split
  · rename_i h
    have := hfit.1 h
    omega
  · rename_i h
    have := mt hfit.2 h
    omega

/-! ## 2. A common factor -/

theorem roundHalfEven_scale {k : Nat} (hk : 0 < k) (num den : Nat) :
    roundHalfEven (k * num) (k * den) = roundHalfEven num den := by
  have e : 2 * (k * (num % den)) = k * (2 * (num % den)) := Nat.mul_left_comm 2 k _
  simp only [roundHalfEven, Nat.mul_div_mul_left num den hk, Nat.mul_mod_mul_left, e,
    Nat.mul_lt_mul_left hk]

theorem scaleDown_scale (k num den : Nat) (shift : Int) :
    scaleDown (k * num) (k * den) shift =
      (k * (scaleDown num den shift).1, k * (scaleDown num den shift).2) := by
  unfold scaleDown
  split
  · rw [Nat.mul_assoc]
  · rw [Nat.mul_assoc]

theorem gridExponent_scale {k num den : Nat} (hk : 0 < k) (hn : 0 < num) (hd : 0 < den) :
    gridExponent (k * num) (k * den) = gridExponent num den := by
  have hkq : (k : ℚ) ≠ 0 := by exact_mod_cast hk.ne'
  rw [gridExponent_eq (Nat.mul_pos hk hn) (Nat.mul_pos hk hd), gridExponent_eq hn hd]
  push_cast
  rw [mul_div_mul_left _ _ hkq]

/-- **A common factor of numerator and denominator makes no difference.** -/
theorem ofRatio_scale {k den : Nat} (hk : 0 < k) (hd : 0 < den) (negative : Bool) (num : Nat) :
    Binary64.ofRatio negative (k * num) (k * den) = Binary64.ofRatio negative num den := by
  rcases Nat.eq_zero_or_pos num with rfl | hn
  · simp [Binary64.ofRatio]
  · have hkn : k * num ≠ 0 := (Nat.mul_pos hk hn).ne'
    simp only [Binary64.ofRatio, if_neg hkn, if_neg hn.ne', gridExponent_scale hk hn hd,
      scaleDown_scale, roundHalfEven_scale hk]

/-! ## 3. Quotients that need no rounding -/

theorem roundHalfEven_mul {den : Nat} (hd : 0 < den) (n : Nat) :
    roundHalfEven (n * den) den = n := by
  unfold roundHalfEven
  rw [Nat.mul_div_cancel n hd, Nat.mul_mod_left]
  exact if_pos (by omega)

/-- The pair of a finite number lies on the grid of its value. -/
theorem gridExponent_exact {significand num den : Nat} {exponent : Int}
    (h : Normal significand exponent) (hn : 0 < num) (hd : 0 < den)
    (hv : (num : ℚ) / den = significand * 2 ^ exponent) : gridExponent num den = exponent := by
  have hq : (0 : ℚ) < (num : ℚ) / den := by positivity
  have below : ∀ k : Nat, significand < 2 ^ k → Int.log 2 ((num : ℚ) / den) < k + exponent := by
    intro k hk
    rw [← Int.lt_zpow_iff_log_lt (b := 2) (by decide) hq, hv]
    push_cast
    rw [zpow_add₀ (by norm_num), zpow_natCast]
    exact mul_lt_mul_of_pos_right (by exact_mod_cast hk) (zpow_pos (by norm_num) exponent)
  have above : ∀ k : Nat, 2 ^ k ≤ significand → k + exponent ≤ Int.log 2 ((num : ℚ) / den) := by
    intro k hk
    rw [← Int.zpow_le_iff_le_log (b := 2) (by decide) hq, hv]
    push_cast
    rw [zpow_add₀ (by norm_num), zpow_natCast]
    exact mul_le_mul_of_nonneg_right (by exact_mod_cast hk) (zpow_pos (by norm_num) exponent).le
  rw [gridExponent_eq hn hd]
  rcases h with ⟨h1, h2, h3, -⟩ | ⟨h1, rfl⟩
  · have b := below 53 h2
    have a := above 52 h1
    omega
  · have b := below 52 h1
    omega

/-- **A quotient that is a finite number rounds to that number.** -/
theorem ofRatio_exact (x : Finite) {num den : Nat} (hn : 0 < num) (hd : 0 < den)
    (hv : (num : ℚ) / den = x.significand * 2 ^ x.exponent) :
    Binary64.ofRatio x.negative num den = .finite x := by
  have hg := gridExponent_exact x.normal hn hd hv
  have hpos := scaleDown_pos hd num x.exponent
  have hpow : (2 : ℚ) ^ x.exponent ≠ 0 := (zpow_pos (by norm_num) x.exponent).ne'
  have hnum : (scaleDown num den x.exponent).1 =
      x.significand * (scaleDown num den x.exponent).2 := by
    have e := scaleDown_ratio num den x.exponent
    rw [hv, mul_div_assoc, div_self hpow, mul_one, div_eq_iff (by exact_mod_cast hpos.ne')] at e
    exact_mod_cast e
  have hend : x.significand ≠ significandEnd := by
    rcases x.normal with h | h
    · exact h.2.1.ne
    · exact (lt_trans h.1 (by decide)).ne
  simp only [Binary64.ofRatio, if_neg hn.ne', hg, hnum, roundHalfEven_mul hpos, if_neg hend,
    Binary64.ofParts, dif_pos x.normal]

end RadarCatalog.Numeric
