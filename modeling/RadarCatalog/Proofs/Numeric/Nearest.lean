import RadarCatalog.Proofs.Numeric.Shortest

/-!
# The nearest finite number

What `Binary64.ofRatio` gives, said without a grid: of all finite numbers none is nearer to the
quotient, and where two are equally near it is the one with the even significand.

* `NearestEven` is that property, for any rational number;
* `roundHalfEven_near`: rounding to a natural number is right within a half;
* `on_grid_or_below`: a finite number lies on a given grid or, on a finer one, below its first
  number of full width, so that nothing is nearer than the rounded quotient (`rounded_nearest`);
* `nearestEven_of_ofRatio`, `exists_ofRatio`: rounding a quotient gives the nearest number, which
  is finite if the quotient is not too large;
* `exists_toBinary64_whole`: so a whole decimal reads as the number nearest to it.
-/

namespace RadarCatalog.Numeric

/-! ## 1. What it is to be nearest -/

/-- A magnitude with a sign. -/
def signed (negative : Bool) (q : ℚ) : ℚ := if negative then -q else q

/-- The value of a finite number. -/
def Finite.value (x : Finite) : ℚ := signed x.negative (x.significand * 2 ^ x.exponent)

/-- No finite number is nearer to `q`, and if another one is equally near, then this one has the
    even significand. -/
structure NearestEven (q : ℚ) (x : Finite) : Prop where
  nearest : ∀ y : Finite, |x.value - q| ≤ |y.value - q|
  even : ∀ y : Finite, y.value ≠ x.value → |y.value - q| = |x.value - q| → Even x.significand

theorem signed_signed (negative negative' : Bool) (q : ℚ) :
    signed negative (signed negative' q) = signed (negative ^^ negative') q := by
  cases negative with
  | false => rw [Bool.false_xor]; rfl
  | true =>
    cases negative' with
    | false => rfl
    | true => exact neg_neg q

theorem abs_signed (negative : Bool) (q : ℚ) : |signed negative q| = |q| := by
  cases negative with
  | false => rfl
  | true => exact abs_neg q

theorem signed_sub (negative : Bool) (p q : ℚ) :
    signed negative (p - q) = signed negative p - signed negative q := by
  cases negative with
  | false => rfl
  | true =>
    show -(p - q) = -p - -q
    ring

/-- A sign on both sides makes no difference to the distance. -/
theorem abs_sub_signed (negative : Bool) (p q : ℚ) :
    |p - signed negative q| = |signed negative p - q| := by
  rw [← abs_signed negative (p - signed negative q), signed_sub, signed_signed, Bool.xor_self]
  rfl

theorem signed_injective (negative : Bool) {p q : ℚ} (h : signed negative p = signed negative q) :
    p = q := by
  cases negative with
  | false => exact h
  | true => exact neg_injective h

/-- A multiple of a unit is one with either sign. -/
theorem exists_signed_mul (negative : Bool) (n : Nat) (unit : ℚ) :
    ∃ m : ℤ, signed negative (n * unit) = m * unit := by
  cases negative with
  | false => exact ⟨n, rfl⟩
  | true => exact ⟨-n, by simp [signed]⟩

/-! ## 2. Rounding to a natural number -/

section Integers

variable {num den : Nat}

/-- A quotient is the whole number below it and a fraction, and the remainder tells on which side of
    a half the fraction lies. -/
theorem exists_fraction (hd : 0 < den) (num : Nat) :
    ∃ f : ℚ, (num : ℚ) / den = (num / den : ℕ) + f ∧ 0 ≤ f ∧ f < 1 ∧
      (f < 1 / 2 ↔ 2 * (num % den) < den) ∧ (1 / 2 < f ↔ den < 2 * (num % den)) := by
  have hdq : (0 : ℚ) < den := by exact_mod_cast hd
  have htwo : (0 : ℚ) < 2 := two_pos
  refine ⟨(num % den : ℕ) / den, ?_, by positivity, ?_, ?_, ?_⟩
  · rw [div_eq_iff hdq.ne', add_mul, div_mul_cancel₀ _ hdq.ne']
    exact_mod_cast (Nat.div_add_mod' num den).symm
  · rw [div_lt_one hdq]
    exact_mod_cast Nat.mod_lt num hd
  · rw [div_lt_iff₀ hdq, ← mul_lt_mul_iff_right₀ htwo, ← mul_assoc]
    norm_num
    exact_mod_cast Iff.rfl
  · rw [lt_div_iff₀ hdq, ← mul_lt_mul_iff_right₀ htwo, ← mul_assoc]
    norm_num
    exact_mod_cast Iff.rfl

/-- **Rounding to a natural number** is right within a half, and a half goes to the even one. -/
theorem roundHalfEven_near (hd : 0 < den) (num : Nat) :
    |(roundHalfEven num den : ℚ) - num / den| < 1 / 2 ∨
      |(roundHalfEven num den : ℚ) - num / den| = 1 / 2 ∧ Even (roundHalfEven num den) := by
  obtain ⟨f, hratio, hf0, hf1, hlt, hgt⟩ := exists_fraction hd num
  unfold roundHalfEven
  simp only [← hlt, ← hgt]
  rw [hratio]
  split
  · rename_i h
    left
    rw [abs_lt]
    constructor <;> linarith
  · rename_i hle
    split
    · rename_i h
      left
      rw [abs_lt]
      push_cast
      constructor <;> linarith
    · rename_i hge
      obtain rfl : f = 1 / 2 := le_antisymm (not_lt.1 hge) (not_lt.1 hle)
      right
      obtain hmod | hmod := Nat.mod_two_eq_zero_or_one (num / den)
      · rw [hmod]
        refine ⟨?_, Nat.even_iff.2 hmod⟩
        norm_num
      · rw [hmod]
        refine ⟨?_, Nat.even_iff.2 (by omega)⟩
        push_cast
        norm_num

/-- No integer is nearer than the rounded one, and one that is equally near is another one only if
    the rounded one is even. -/
theorem roundHalfEven_nearest (hd : 0 < den) (num : Nat) (m : ℤ) :
    |(roundHalfEven num den : ℚ) - num / den| ≤ |(m : ℚ) - num / den| ∧
      (m ≠ roundHalfEven num den →
        |(m : ℚ) - num / den| = |(roundHalfEven num den : ℚ) - num / den| →
          Even (roundHalfEven num den)) := by
  have hnear := roundHalfEven_near hd num
  obtain ⟨q, hq⟩ : ∃ q : ℚ, q = num / den := ⟨_, rfl⟩
  obtain ⟨s, hs⟩ : ∃ s, s = roundHalfEven num den := ⟨_, rfl⟩
  rw [← hq, ← hs] at hnear ⊢
  by_cases hm : m = s
  · subst hm
    exact ⟨le_of_eq rfl, fun hne => absurd rfl hne⟩
  · -- another integer is a whole unit away
    have hunit : 1 ≤ |(m : ℚ) - s| := by
      have hint : 1 ≤ |m - (s : ℤ)| := Int.one_le_abs (sub_ne_zero.2 hm)
      exact_mod_cast hint
    have htriangle : |(m : ℚ) - s| ≤ |(m : ℚ) - q| + |(s : ℚ) - q| := by
      rw [abs_sub_comm (s : ℚ) q]
      exact abs_sub_le _ _ _
    obtain hless | ⟨hhalf, heven⟩ := hnear
    · refine ⟨by linarith, fun _ heq => ?_⟩
      linarith
    · exact ⟨by linarith, fun _ _ => heven⟩

theorem roundHalfEven_le {bound : Nat} (h : num < bound * den) : roundHalfEven num den ≤ bound := by
  have hlow : num / den < bound := Nat.div_lt_of_lt_mul (by rwa [Nat.mul_comm])
  unfold roundHalfEven
  grind

theorem le_roundHalfEven {bound : Nat} (hd : 0 < den) (h : bound * den ≤ num) :
    bound ≤ roundHalfEven num den := by
  have hlow : bound ≤ num / den := (Nat.le_div_iff_mul_le hd).2 h
  unfold roundHalfEven
  grind

end Integers

/-! ## 3. The grid -/

theorem two_zpow_pos (k : Int) : (0 : ℚ) < 2 ^ k := zpow_pos (by norm_num) k

theorem two_zpow_add (k l : Int) : (2 : ℚ) ^ (k + l) = 2 ^ k * 2 ^ l := zpow_add₀ (by norm_num) k l

/-- A finite number, with either sign, lies on a grid; or it is on a finer one and below the least
    number that has the full width on the given one. -/
theorem on_grid_or_below (y : Finite) (negative : Bool) (grid : Int) :
    (∃ m : ℤ, signed negative y.value = m * 2 ^ grid) ∨
      -1074 < grid ∧ |signed negative y.value| < (leastNormal : ℚ) * 2 ^ grid := by
  by_cases h : grid ≤ y.exponent
  · left
    obtain ⟨k, hk⟩ : ∃ k : Nat, y.exponent = k + grid := ⟨(y.exponent - grid).toNat, by omega⟩
    have hunits : (y.significand : ℚ) * 2 ^ y.exponent =
        (y.significand * 2 ^ k : ℕ) * 2 ^ grid := by
      rw [hk, two_zpow_add, zpow_natCast, ← mul_assoc]
      push_cast
      rfl
    rw [Finite.value, signed_signed, hunits]
    exact exists_signed_mul _ _ _
  · right
    obtain ⟨hlow, _⟩ := y.exponent_bounds
    refine ⟨by omega, ?_⟩
    have hsignificand : (y.significand : ℚ) < significandEnd := by
      exact_mod_cast y.significand_lt
    have hpos := two_zpow_pos y.exponent
    have habs : |(y.significand : ℚ) * 2 ^ y.exponent| = y.significand * 2 ^ y.exponent :=
      abs_of_nonneg (mul_nonneg (Nat.cast_nonneg _) hpos.le)
    rw [abs_signed, Finite.value, abs_signed, habs]
    calc (y.significand : ℚ) * 2 ^ y.exponent
        < significandEnd * 2 ^ y.exponent := mul_lt_mul_of_pos_right hsignificand hpos
      _ ≤ significandEnd * 2 ^ (grid - 1) := by
          refine mul_le_mul_of_nonneg_left ?_ (Nat.cast_nonneg _)
          exact zpow_le_zpow_right₀ (by norm_num) (by omega)
      _ = leastNormal * 2 ^ grid := by
          rw [zpow_sub_one₀ (by norm_num)]
          norm_num [significandEnd, leastNormal]
          ring

/-- The rounded quotient on its grid. -/
def rounded (num den : Nat) : Nat :=
  roundHalfEven (scaleDown num den (gridExponent num den)).1
    (scaleDown num den (gridExponent num den)).2

section Ratio

variable {num den : Nat} (hn : 0 < num) (hd : 0 < den)
include hn hd

/-- On its grid a quotient stays below the first number of more than the full width. -/
theorem ratio_lt_grid : (num : ℚ) / den < significandEnd * 2 ^ gridExponent num den := by
  have hq : (0 : ℚ) < (num : ℚ) / den := by positivity
  have hlog : Int.log 2 ((num : ℚ) / den) < 53 + gridExponent num den := by
    rw [gridExponent_eq hn hd]
    omega
  rw [← Int.lt_zpow_iff_log_lt (b := 2) (by decide) hq, Nat.cast_ofNat, two_zpow_add] at hlog
  norm_num [significandEnd] at hlog ⊢
  exact hlog

/-- It has the full width, unless its grid is the finest one. -/
theorem grid_le_ratio (hgrid : -1074 < gridExponent num den) :
    (leastNormal : ℚ) * 2 ^ gridExponent num den ≤ (num : ℚ) / den := by
  have hq : (0 : ℚ) < (num : ℚ) / den := by positivity
  have hlog : 52 + gridExponent num den ≤ Int.log 2 ((num : ℚ) / den) := by
    rw [gridExponent_eq hn hd] at hgrid ⊢
    omega
  rw [← Int.zpow_le_iff_le_log (b := 2) (by decide) hq, Nat.cast_ofNat, two_zpow_add] at hlog
  norm_num [leastNormal] at hlog ⊢
  exact hlog

/-! ## 4. The rounded quotient -/

omit hn in
/-- Nothing on the grid is nearer than the rounded quotient. -/
theorem rounded_nearest_grid (m : ℤ) :
    |(rounded num den : ℚ) * 2 ^ gridExponent num den - num / den| ≤
        |(m : ℚ) * 2 ^ gridExponent num den - num / den| ∧
      ((m : ℚ) * 2 ^ gridExponent num den ≠ rounded num den * 2 ^ gridExponent num den →
        |(m : ℚ) * 2 ^ gridExponent num den - num / den| =
            |(rounded num den : ℚ) * 2 ^ gridExponent num den - num / den| →
          Even (rounded num den)) := by
  unfold rounded
  generalize gridExponent num den = grid
  have hunit := two_zpow_pos grid
  have hscale : ∀ c : ℚ, |c * 2 ^ grid - num / den| = |c - num / den / 2 ^ grid| * 2 ^ grid := by
    intro c
    rw [← abs_of_pos hunit, ← abs_mul, abs_of_pos hunit, sub_mul, div_mul_cancel₀ _ hunit.ne']
  obtain ⟨hle, heven⟩ :=
    roundHalfEven_nearest (scaleDown_pos hd num grid) (scaleDown num den grid).1 m
  rw [scaleDown_ratio] at hle heven
  rw [hscale, hscale]
  refine ⟨mul_le_mul_of_nonneg_right hle hunit.le, ?_⟩
  intro hne heq
  refine heven ?_ (mul_right_cancel₀ hunit.ne' heq)
  rintro rfl
  exact hne (by push_cast; rfl)

/-- **Nothing is nearer than the rounded quotient**, neither on the grid nor on a finer one. -/
theorem rounded_nearest {w : ℚ} (hw : (∃ m : ℤ, w = m * 2 ^ gridExponent num den) ∨
      -1074 < gridExponent num den ∧ |w| < (leastNormal : ℚ) * 2 ^ gridExponent num den) :
    |(rounded num den : ℚ) * 2 ^ gridExponent num den - num / den| ≤ |w - num / den| ∧
      (w ≠ rounded num den * 2 ^ gridExponent num den →
        |w - num / den| = |(rounded num den : ℚ) * 2 ^ gridExponent num den - num / den| →
          Even (rounded num den)) := by
  obtain ⟨m, rfl⟩ | ⟨hgrid, hw⟩ := hw
  · exact rounded_nearest_grid hd m
  · -- the least number of full width lies between, and is on the grid
    have hfull := grid_le_ratio hn hd hgrid
    obtain ⟨hle, _⟩ := @rounded_nearest_grid num den hd leastNormal
    have hleft : |((leastNormal : ℤ) : ℚ) * 2 ^ gridExponent num den - num / den| =
        num / den - leastNormal * 2 ^ gridExponent num den := by
      rw [abs_sub_comm, Int.cast_natCast, abs_of_nonneg (sub_nonneg.2 hfull)]
    have hless : |(rounded num den : ℚ) * 2 ^ gridExponent num den - num / den| <
        |w - num / den| := by
      rw [hleft] at hle
      rw [abs_sub_comm w]
      have hright := le_abs_self ((num : ℚ) / den - w)
      have hself := le_abs_self w
      linarith
    exact ⟨hless.le, fun _ heq => absurd heq.symm hless.ne⟩

omit hn hd in
theorem parts_of_ofParts {negative : Bool} {significand : Nat} {exponent : Int} {x : Finite}
    (h : Binary64.ofParts negative significand exponent = .finite x) :
    x.negative = negative ∧ x.significand = significand ∧ x.exponent = exponent := by
  unfold Binary64.ofParts at h
  split at h
  · cases h
    exact ⟨rfl, rfl, rfl⟩
  · cases h

omit hd in
/-- The rounded quotient is what rounding gives. -/
theorem parts_of_ofRatio {negative : Bool} {x : Finite}
    (h : Binary64.ofRatio negative num den = .finite x) : x.negative = negative ∧
      (x.significand : ℚ) * 2 ^ x.exponent = rounded num den * 2 ^ gridExponent num den ∧
      (Even (rounded num den) → Even x.significand) := by
  unfold Binary64.ofRatio at h
  rw [if_neg hn.ne'] at h
  simp only at h
  split at h
  · rename_i hend
    obtain ⟨hnegative, hsignificand, hexponent⟩ := parts_of_ofParts h
    refine ⟨hnegative, ?_, fun _ => ?_⟩
    · rw [rounded, hend, hsignificand, hexponent, two_zpow_add]
      norm_num [significandEnd, leastNormal]
      ring
    · rw [hsignificand]
      decide
  · obtain ⟨hnegative, hsignificand, hexponent⟩ := parts_of_ofParts h
    refine ⟨hnegative, ?_, ?_⟩
    · rw [rounded, hsignificand, hexponent]
    · rw [hsignificand]
      exact id

/-- **Rounding a quotient gives the nearest number.** -/
theorem nearestEven_of_ofRatio {negative : Bool} {x : Finite}
    (h : Binary64.ofRatio negative num den = .finite x) :
    x.negative = negative ∧ NearestEven (signed negative (num / den)) x := by
  obtain ⟨hnegative, hvalue, heven⟩ := parts_of_ofRatio hn h
  have hx : x.value = signed negative (rounded num den * 2 ^ gridExponent num den) := by
    rw [Finite.value, hnegative, hvalue]
  have hself : signed negative x.value = rounded num den * 2 ^ gridExponent num den := by
    rw [hx, signed_signed, Bool.xor_self]
    rfl
  have hnear := fun y : Finite => rounded_nearest hn hd (on_grid_or_below y negative _)
  refine ⟨hnegative, fun y => ?_, fun y hne heq => heven ?_⟩
  · rw [abs_sub_signed, abs_sub_signed, hself]
    exact (hnear y).1
  · rw [abs_sub_signed, abs_sub_signed, hself] at heq
    refine (hnear y).2 ?_ heq
    intro hsame
    rw [← hself] at hsame
    exact hne (signed_injective negative hsame)

/-- A quotient that is not too large rounds to a finite number. -/
theorem exists_ofRatio (negative : Bool) (hq : (num : ℚ) / den < 2 ^ (1023 : Int)) :
    ∃ x, Binary64.ofRatio negative num den = .finite x := by
  have hgrid : -1074 ≤ gridExponent num den ∧ gridExponent num den ≤ 970 := by
    have hpos : (0 : ℚ) < (num : ℚ) / den := by positivity
    have hlog := (Int.lt_zpow_iff_log_lt (b := 2) (by decide) hpos).1 (by rwa [Nat.cast_ofNat])
    rw [gridExponent_eq hn hd]
    omega
  have hend : rounded num den ≤ significandEnd :=
    roundHalfEven_le ((scaleDown_lt_iff hd _ _ _).2 (ratio_lt_grid hn hd))
  have hfull : -1074 < gridExponent num den → leastNormal ≤ rounded num den := by
    intro h
    refine le_roundHalfEven (scaleDown_pos hd _ _) ?_
    rw [← not_lt, scaleDown_lt_iff hd]
    exact not_lt.2 (grid_le_ratio hn hd h)
  have hnormal : rounded num den ≠ significandEnd →
      Normal (rounded num den) (gridExponent num den) := by
    intro hne
    by_cases hsmall : rounded num den < leastNormal
    · refine .inr ⟨hsmall, ?_⟩
      by_contra hcoarse
      have hwide := hfull (by omega)
      omega
    · exact .inl ⟨by omega, by omega, by omega, by omega⟩
  unfold Binary64.ofRatio
  rw [if_neg hn.ne']
  simp only
  rw [← rounded]
  by_cases h : rounded num den = significandEnd
  · rw [if_pos h, Binary64.ofParts, dif_pos (.inl ⟨le_refl _, by decide, by omega, by omega⟩)]
    exact ⟨_, rfl⟩
  · rw [if_neg h, Binary64.ofParts, dif_pos (hnormal h)]
    exact ⟨_, rfl⟩

end Ratio

/-! ## 5. Whole decimals -/

/-- The nearest number to zero. -/
theorem nearestEven_zero (negative : Bool) : NearestEven 0 (.zero negative) := by
  have hvalue : (Finite.zero negative).value = 0 := by
    cases negative <;> simp [Finite.value, Finite.zero, signed]
  refine ⟨fun y => ?_, fun _ _ _ => ⟨0, rfl⟩⟩
  rw [hvalue, sub_zero, abs_zero]
  exact abs_nonneg _

/-- **A whole decimal of up to twenty digits** reads as the number nearest to it. -/
theorem exists_toBinary64_whole (negative : Bool) {n : Nat} (hn : n < 10 ^ 20) :
    ∃ x, (Decimal.mk negative n 0).toBinary64 = .finite x ∧ x.negative = negative ∧
      NearestEven (signed negative n) x := by
  obtain rfl | hpos := Nat.eq_zero_or_pos n
  · refine ⟨.zero negative, rfl, rfl, ?_⟩
    have hzero : signed negative ((0 : Nat) : ℚ) = 0 := by cases negative <;> simp [signed]
    rw [hzero]
    exact nearestEven_zero negative
  · have hwidth : (Decimal.mk negative n 0).magnitude ≤ 20 := by
      have hle := width_le_of_lt (by omega) hn
      simp only [Decimal.magnitude]
      omega
    have hlow : 0 ≤ (Decimal.mk negative n 0).magnitude := by
      simp only [Decimal.magnitude]
      omega
    have hreads : (Decimal.mk negative n 0).toBinary64 = .ofRatio negative n 1 := by
      unfold Decimal.toBinary64
      rw [if_neg hpos.ne', if_neg (by omega), if_neg (by omega), if_pos (le_refl _)]
      simp
    have hbound : (n : ℚ) / (1 : Nat) < 2 ^ (1023 : Int) := by
      have hpow : (10 : Nat) ^ 20 ≤ 2 ^ 1023 := by decide +kernel
      rw [Nat.cast_one, div_one]
      exact_mod_cast lt_of_lt_of_le hn hpow
    obtain ⟨x, hx⟩ := exists_ofRatio hpos one_pos negative hbound
    obtain ⟨hnegative, hnear⟩ := nearestEven_of_ofRatio hpos one_pos hx
    rw [Nat.cast_one, div_one] at hnear
    exact ⟨x, hreads.trans hx, hnegative, hnear⟩

end RadarCatalog.Numeric
