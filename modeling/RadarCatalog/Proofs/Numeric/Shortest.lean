import RadarCatalog.Numeric.Decimal
import RadarCatalog.Proofs.Numeric.Digits
import RadarCatalog.Proofs.Numeric.Rounding

/-!
# The shortest decimal reads back

* `toBinary64_shift`: a decimal reads the same with zeros behind its coefficient and the exponent
  lowered by as many;
* `toBinary64_exactDecimal`: the decimal with exactly the value of a finite number reads as it;
* `toBinary64_shortest`: so does the shortest one, whichever of the candidates it is.
-/

namespace RadarCatalog.Numeric

/-! ## 1. Zeros behind the coefficient -/

theorem toBinary64_zero (negative : Bool) (exponent : Int) :
    (Decimal.mk negative 0 exponent).toBinary64 = .finite (.zero negative) := rfl

theorem toBinary64_mul_ten (negative : Bool) {coefficient : Nat} (hc : 0 < coefficient)
    (exponent : Int) :
    (Decimal.mk negative (10 * coefficient) (exponent - 1)).toBinary64 =
      (Decimal.mk negative coefficient exponent).toBinary64 := by
  have hm : (Decimal.mk negative (10 * coefficient) (exponent - 1)).magnitude =
      (Decimal.mk negative coefficient exponent).magnitude := by
    simp only [Decimal.magnitude, width_mul_ten hc]
    omega
  have hc' : 10 * coefficient ≠ 0 := by omega
  have hpow : 0 < Nat.pow 10 (-exponent).toNat := Nat.pow_pos (by omega)
  simp only [Decimal.toBinary64, hm, if_neg hc', if_neg hc.ne']
  -- the two exponents lie on one side of zero, or are `-1` and `0`
  rcases lt_trichotomy exponent 0 with h | h | h
  · have e : Nat.pow 10 (-(exponent - 1)).toNat = 10 * Nat.pow 10 (-exponent).toNat := by
      rw [show (-(exponent - 1)).toNat = (-exponent).toNat + 1 by omega]
      exact Nat.pow_succ'
    rw [if_neg (by omega : ¬ 0 ≤ exponent - 1), if_neg (by omega : ¬ 0 ≤ exponent), e,
      ofRatio_scale (by omega) hpow]
  · subst h
    have e : Nat.pow 10 (-((0 : Int) - 1)).toNat = 10 * 1 := rfl
    rw [if_neg (by omega : ¬ (0 : Int) ≤ 0 - 1), if_pos (by omega : (0 : Int) ≤ 0), e,
      ofRatio_scale (by omega) (by omega)]
    simp
  · have e : Nat.pow 10 exponent.toNat = 10 * Nat.pow 10 (exponent - 1).toNat := by
      rw [show exponent.toNat = (exponent - 1).toNat + 1 by omega]
      exact Nat.pow_succ'
    rw [if_pos (by omega : 0 ≤ exponent - 1), if_pos (by omega : 0 ≤ exponent), e,
      Nat.mul_left_comm, Nat.mul_assoc]

/-- **Zeros behind the coefficient** change the decimal and not what it reads as. -/
theorem toBinary64_shift (negative : Bool) (coefficient : Nat) (exponent : Int) (places : Nat) :
    (Decimal.mk negative (coefficient * 10 ^ places) (exponent - places)).toBinary64 =
      (Decimal.mk negative coefficient exponent).toBinary64 := by
  rcases Nat.eq_zero_or_pos coefficient with rfl | hc
  · rw [Nat.zero_mul, toBinary64_zero, toBinary64_zero]
  · induction places with
    | zero => simp
    | succ places ih =>
      have hpos : 0 < coefficient * 10 ^ places := Nat.mul_pos hc (Nat.pow_pos (by omega))
      rw [← ih, ← toBinary64_mul_ten negative hpos, Nat.pow_succ, ← Nat.mul_assoc,
        Nat.mul_comm _ 10,
        show exponent - ((places + 1 : Nat) : Int) = exponent - places - 1 by push_cast; ring]

/-! ## 2. The exact decimal -/

theorem Finite.significand_lt (x : Finite) : x.significand < significandEnd := by
  rcases x.normal with h | h
  · exact h.2.1
  · exact lt_trans h.1 (by decide)

theorem Finite.exponent_bounds (x : Finite) : -1074 ≤ x.exponent ∧ x.exponent ≤ 971 := by
  rcases x.normal with h | h
  · exact h.2.2
  · omega

/-- The exact decimal of a number with a nonnegative exponent is not too large to be read. -/
theorem width_of_nonneg (x : Finite) (h : 0 ≤ x.exponent) :
    width (x.significand * 2 ^ x.exponent.toNat) ≤ 309 := by
  have he : x.exponent.toNat ≤ 971 := by
    have := x.exponent_bounds
    omega
  have hw : width (x.significand * 2 ^ x.exponent.toNat) ≤ 155 + 154 := by
    apply width_le_of_lt (by omega)
    calc x.significand * 2 ^ x.exponent.toNat
        ≤ significandEnd * 2 ^ 971 :=
          Nat.mul_le_mul x.significand_lt.le (Nat.pow_le_pow_right (by omega) he)
      _ < 10 ^ 155 * 10 ^ 154 := by decide +kernel
      _ = 10 ^ (155 + 154) := by rw [Nat.pow_add]
  omega

/-- The exact decimal of a number with a negative exponent is neither too large nor too small. -/
theorem width_of_neg (x : Finite) (hs : 0 < x.significand) (k : Nat) (hk : k ≤ 1074) :
    width (x.significand * 5 ^ k) ≤ 309 + k ∧ k ≤ width (x.significand * 5 ^ k) + 323 := by
  constructor
  · apply width_le_of_lt (by omega)
    calc x.significand * 5 ^ k
        ≤ significandEnd * 10 ^ k :=
          Nat.mul_le_mul x.significand_lt.le (Nat.pow_le_pow_left (by omega) k)
      _ < 10 ^ 16 * 10 ^ k :=
          Nat.mul_lt_mul_of_pos_right (by decide) (Nat.pow_pos (by omega))
      _ = 10 ^ (16 + k) := (Nat.pow_add 10 16 k).symm
      _ ≤ 10 ^ (309 + k) := Nat.pow_le_pow_right (by omega) (by omega)
  · by_contra hlt
    -- no exponent is below `324 + 750`
    have h5 : 2 ^ (k - 324) ≤ 5 ^ 324 := by
      have h : (2 : Nat) ^ 750 ≤ 5 ^ 324 := by decide +kernel
      exact le_trans (Nat.pow_le_pow_right (by omega) (by omega)) h
    have hw : 10 ^ (k - 324) ≤ x.significand * 5 ^ k := by
      calc 10 ^ (k - 324) = 2 ^ (k - 324) * 5 ^ (k - 324) := by rw [← Nat.mul_pow]
        _ ≤ 5 ^ 324 * 5 ^ (k - 324) := Nat.mul_le_mul_right _ h5
        _ = 5 ^ k := by rw [← Nat.pow_add, Nat.add_sub_cancel' (by omega)]
        _ ≤ x.significand * 5 ^ k := Nat.le_mul_of_pos_left _ hs
    have := lt_width_of_le hw
    omega

/-- **The decimal with exactly the value of a finite number reads as that number.** -/
theorem toBinary64_exactDecimal (x : Finite) : x.exactDecimal.toBinary64 = .finite x := by
  have hb := x.exponent_bounds
  rcases Nat.eq_zero_or_pos x.significand with hs | hs
  · have hx : x = .zero x.negative := by
      obtain ⟨negative, significand, exponent, hn⟩ := x
      simp only at hs
      subst hs
      have he : exponent = -1074 := by
        rcases hn with h | h
        · exact absurd h.1 (by decide)
        · exact h.2
      subst he
      rfl
    unfold Finite.exactDecimal
    split
    · rw [hs, Nat.zero_mul, toBinary64_zero, ← hx]
    · rw [hs, Nat.zero_mul, toBinary64_zero, ← hx]
  · unfold Finite.exactDecimal
    split
    · rename_i h
      have hw := width_of_nonneg x h
      have hpos : 0 < x.significand * 2 ^ x.exponent.toNat :=
        Nat.mul_pos hs (Nat.pow_pos (by omega))
      simp only [Decimal.toBinary64, Decimal.magnitude, Nat.pow_eq]
      rw [if_neg hpos.ne', if_neg (by omega), if_neg (by omega), if_pos (by omega)]
      simp only [Int.toNat_zero, Nat.pow_zero, Nat.mul_one]
      apply ofRatio_exact x hpos (by omega)
      obtain ⟨n, hn⟩ := Int.eq_ofNat_of_zero_le h
      rw [hn, Int.toNat_natCast, zpow_natCast]
      push_cast
      ring
    · rename_i h
      obtain ⟨k, hk⟩ : ∃ k : Nat, x.exponent = -(k : Int) := ⟨(-x.exponent).toNat, by omega⟩
      have hw := width_of_neg x hs k (by omega)
      have hpos : 0 < x.significand * 5 ^ k := Nat.mul_pos hs (Nat.pow_pos (by omega))
      simp only [Decimal.toBinary64, Decimal.magnitude, Nat.pow_eq, hk, neg_neg, Int.toNat_natCast]
      rw [if_neg hpos.ne', if_neg (by omega), if_neg (by omega), if_neg (by omega)]
      apply ofRatio_exact x hpos (Nat.pow_pos (by omega))
      rw [hk, zpow_neg, zpow_natCast]
      push_cast
      rw [show (10 : ℚ) = 2 * 5 by norm_num, mul_pow]
      field_simp

/-! ## 3. The shortest decimal -/

theorem Finite.shortest_cases (x : Finite) :
    (x.shortest ∈ x.candidates ∧ x.shortest.reads x = true) ∨ x.shortest = x.exactDecimal := by
  unfold Finite.shortest
  cases h : x.candidates.find? (·.reads x) with
  | none => exact Or.inr rfl
  | some d =>
    have hd : d.reads x = true := List.find?_some (p := fun d : Decimal => d.reads x) h
    exact Or.inl ⟨List.mem_of_find?_eq_some h, hd⟩

/-- **The shortest decimal of a finite number reads as that number.** -/
theorem toBinary64_shortest (x : Finite) : x.shortest.toBinary64 = .finite x := by
  rcases x.shortest_cases with ⟨-, h⟩ | h
  · exact of_decide_eq_true h
  · rw [h]
    exact toBinary64_exactDecimal x

theorem exponent_trimZeros (negative : Bool) (coefficient : Nat) (exponent : Int) :
    (Decimal.trimZeros negative coefficient exponent).coefficient = 0 →
      (Decimal.trimZeros negative coefficient exponent).exponent = 0 := by
  induction coefficient using Nat.strongRecOn generalizing exponent with
  | _ coefficient ih =>
    rw [Decimal.trimZeros]
    split
    · intro _
      rfl
    · split
      · exact ih (coefficient / 10) (by omega) (exponent + 1)
      · rename_i h _
        intro h0
        exact absurd h0 h

/-- A zero is not written with an exponent above zero. -/
theorem Finite.shortest_zero (x : Finite) (h : x.shortest.coefficient = 0) :
    x.shortest.exponent ≤ 0 := by
  rcases x.shortest_cases with ⟨hm, -⟩ | he
  · obtain ⟨n, -, hm⟩ := List.mem_flatMap.1 hm
    have trimmed : ∀ c e, x.shortest = Decimal.trimZeros x.exactDecimal.negative c e →
        x.shortest.exponent ≤ 0 := by
      intro c e he
      rw [he] at h ⊢
      exact (exponent_trimZeros _ _ _ h).le
    simp only [Decimal.neighbours] at hm
    split at hm
    · rcases List.mem_cons.1 hm with hm | hm
      · exact trimmed _ _ hm
      · exact trimmed _ _ (List.mem_singleton.1 hm)
    · rcases List.mem_cons.1 hm with hm | hm
      · exact trimmed _ _ hm
      · exact trimmed _ _ (List.mem_singleton.1 hm)
  · rw [he]
    unfold Finite.exactDecimal
    split
    · exact le_refl 0
    · rename_i h
      simp only
      omega

end RadarCatalog.Numeric
