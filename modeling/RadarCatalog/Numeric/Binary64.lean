import RadarCatalog.Numeric.Digits

/-!
# Binary64 numbers as exact data

A finite binary64 number is `± significand · 2 ^ exponent` with natural significand and integer
exponent. The field `normal` admits one pair for each magnitude, so two finite numbers are the
same data exactly when they are the same bits; the two zeros are different data.

* `Finite` is the type of the finite numbers, `Binary64` adds the infinities and the one NaN;
* `Finite.sameValue` compares as numbers: the two zeros agree, and nothing else is merged;
* `Binary64.ofRatio` rounds a quotient of naturals to the nearest number, a half going to the
  even neighbour and a quotient beyond the range to infinity.
-/

namespace RadarCatalog.Numeric

/-! ## 1. Finite numbers -/

/-- The least significand of 53 bits, `2 ^ 52`. -/
def leastNormal : Nat := 0x10000000000000

/-- The first number of more than 53 bits, `2 ^ 53`. -/
def significandEnd : Nat := 0x20000000000000

/-- The pairs that stand for a finite number: the significand has 53 bits, or the exponent is the
    least one and the significand has fewer. -/
def Normal (significand : Nat) (exponent : Int) : Prop :=
  (leastNormal ≤ significand ∧ significand < significandEnd ∧ -1074 ≤ exponent ∧
      exponent ≤ 971) ∨
    (significand < leastNormal ∧ exponent = -1074)

instance (significand : Nat) (exponent : Int) : Decidable (Normal significand exponent) :=
  inferInstanceAs (Decidable (_ ∨ _))

/-- A finite binary64 number. -/
structure Finite where
  negative : Bool
  significand : Nat
  exponent : Int
  normal : Normal significand exponent
deriving DecidableEq

namespace Finite

/-- The zero with the given sign. -/
def zero (negative : Bool) : Finite := ⟨negative, 0, -1074, Or.inr ⟨by decide, rfl⟩⟩

instance : Inhabited Finite := ⟨zero false⟩

/-- Equality as numbers: the two zeros are equal. -/
def sameValue (x y : Finite) : Bool :=
  x = y || (x.significand = 0 && y.significand = 0)

/-- Above zero, so neither zero is. -/
def isPositive (x : Finite) : Bool := !x.negative && x.significand ≠ 0

/-- The same magnitude with a plus sign. -/
def abs (x : Finite) : Finite := { x with negative := false }

end Finite

/-- A binary64 datum. -/
inductive Binary64 where
  | finite (x : Finite)
  | infinite (negative : Bool)
  | nan
deriving DecidableEq, Inhabited

/-- The finite number, where the datum is one. -/
def Binary64.finite? : Binary64 → Option Finite
  | .finite x => some x
  | _ => none

/-! ## 2. Rounding a quotient -/

/-- The natural number nearest to `num / den`; a half goes to the even neighbour. -/
def roundHalfEven (num den : Nat) : Nat :=
  let low := num / den
  let twice := 2 * (num % den)
  if twice < den then low
  else if den < twice then low + 1
  else low + low % 2

/-- The quotient `num / den` divided by `2 ^ shift`, as a numerator and a denominator. -/
def scaleDown (num den : Nat) (shift : Int) : Nat × Nat :=
  if 0 ≤ shift then (num, den * Nat.pow 2 shift.toNat) else (num * Nat.pow 2 (-shift).toNat, den)

/-- The exponent of the grid that a positive quotient is rounded on: the least one, not below
    -1074, on which it stays under `2 ^ 53` units. -/
def gridExponent (num den : Nat) : Int :=
  let guess : Int := (Nat.log2 num : Int) - (Nat.log2 den : Int) - 53
  let (n, d) := scaleDown num den guess
  max (-1074) (if n < significandEnd * d then guess else guess + 1)

/-- The number with these parts; a pair out of range is an overflow. -/
def Binary64.ofParts (negative : Bool) (significand : Nat) (exponent : Int) : Binary64 :=
  if h : Normal significand exponent then .finite ⟨negative, significand, exponent, h⟩
  else .infinite negative

/-- The quotient `num / den`, with a sign, rounded to the nearest number. -/
def Binary64.ofRatio (negative : Bool) (num den : Nat) : Binary64 :=
  if num = 0 then .finite (Finite.zero negative)
  else
    let exponent := gridExponent num den
    let (n, d) := scaleDown num den exponent
    let significand := roundHalfEven n d
    if significand = significandEnd then ofParts negative leastNormal (exponent + 1)
    else ofParts negative significand exponent

end RadarCatalog.Numeric
