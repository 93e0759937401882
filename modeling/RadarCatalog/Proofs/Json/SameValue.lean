import RadarCatalog.Json.Value

/-!
# Equality as values

Two scalars are equal as values when they are the same but for the sign of a zero. Said by a
normal form: `unsigned` takes the sign off a zero, and `sameValue_iff` makes equality as values the
equality of normal forms. So it is an equivalence, and a function that does not tell a scalar from
its normal form does not tell equal values apart.
-/

namespace RadarCatalog.Numeric.Finite

/-- The number, where a zero has no sign. -/
def unsigned (x : Finite) : Finite := if x.significand = 0 then zero false else x

theorem sameValue_iff {x y : Finite} : x.sameValue y = true ↔ x.unsigned = y.unsigned := by
  simp only [sameValue, Bool.or_eq_true, Bool.and_eq_true, decide_eq_true_eq, unsigned]
  constructor
  · rintro (rfl | ⟨hx, hy⟩)
    · rfl
    · rw [if_pos hx, if_pos hy]
  · intro h
    by_cases hx : x.significand = 0
    · by_cases hy : y.significand = 0
      · exact .inr ⟨hx, hy⟩
      · rw [if_pos hx, if_neg hy] at h
        exact absurd (congrArg significand h).symm hy
    · by_cases hy : y.significand = 0
      · rw [if_neg hx, if_pos hy] at h
        exact absurd (congrArg significand h) hx
      · rw [if_neg hx, if_neg hy] at h
        exact .inl h

/-- A zero has one exponent. -/
theorem exponent_of_zero {x : Finite} (h : x.significand = 0) : x.exponent = -1074 := by
  rcases x.normal with ⟨hleast, _⟩ | ⟨_, hexponent⟩
  · rw [h] at hleast
    exact absurd hleast (by decide)
  · exact hexponent

theorem abs_unsigned (x : Finite) : x.unsigned.abs = x.abs := by
  obtain ⟨negative, significand, exponent, normal⟩ := x
  by_cases h : significand = 0
  · have hexponent := exponent_of_zero (x := ⟨negative, significand, exponent, normal⟩) h
    subst h
    cases hexponent
    rfl
  · simp only [unsigned, if_neg h]

theorem isPositive_unsigned (x : Finite) : x.unsigned.isPositive = x.isPositive := by
  by_cases h : x.significand = 0
  · simp [unsigned, isPositive, h, zero]
  · simp only [unsigned, if_neg h]

end RadarCatalog.Numeric.Finite

namespace RadarCatalog.Json

/-- The number, where a zero has no sign. -/
def Number.unsigned : Number → Number
  | .integer z => .integer z
  | .real x => .real x.unsigned

theorem Number.sameValue_iff : ∀ {m n : Number}, m.sameValue n = true ↔ m.unsigned = n.unsigned
  | .integer a, .integer b => by simp [sameValue, unsigned]
  | .real x, .real y => by simp [sameValue, unsigned, Numeric.Finite.sameValue_iff]
  | .integer a, .real y => by simp [sameValue, unsigned]
  | .real x, .integer b => by simp [sameValue, unsigned]

namespace Scalar

/-- The scalar, where a zero has no sign. -/
def unsigned : Scalar → Scalar
  | .number n => .number n.unsigned
  | s => s

/-- **Equal values are those with equal normal forms.** -/
theorem sameValue_iff : ∀ {s t : Scalar}, s.sameValue t = true ↔ s.unsigned = t.unsigned
  | .number m, .number n => by simp [sameValue, unsigned, Number.sameValue_iff]
  | .null, t | .bool _, t | .string _, t => by cases t <;> simp [sameValue, unsigned]
  | .number m, .null | .number m, .bool _ | .number m, .string _ => by
    simp [sameValue, unsigned]

/-- Values that may be absent. -/
theorem rel_sameValue_iff {a b : Option Scalar} :
    Option.Rel (fun s t => s.sameValue t = true) a b ↔ a.map unsigned = b.map unsigned := by
  cases a with
  | none =>
    cases b with
    | none => exact ⟨fun _ => rfl, fun _ => .none⟩
    | some t => exact ⟨nofun, nofun⟩
  | some s =>
    cases b with
    | none => exact ⟨nofun, nofun⟩
    | some t =>
      constructor
      · intro h
        cases h with
        | some hst => exact congrArg some (sameValue_iff.1 hst)
      · intro h
        exact .some (sameValue_iff.2 (Option.some.inj h))

end Scalar

end RadarCatalog.Json
