import RadarCatalog.Numeric.Binary64

/-!
# Decimal numbers and the binary64 numbers they read as

A `Decimal` is `± coefficient · 10 ^ exponent`.

* `Decimal.toBinary64` rounds it to the nearest binary64 number, exactly;
* `Finite.exactDecimal` is the decimal with exactly the value of a finite number;
* `Finite.shortest` is the decimal that a finite number is written with: the fewest digits that
  read back as the number, of two such decimals the nearer, and of two equally near the one with
  the even last digit.

Reading `Finite.shortest x` gives `x` again: each candidate is tested by reading it, and the last
resort is the exact decimal.
-/

namespace RadarCatalog.Numeric

/-! ## 1. Decimals -/

/-- The number `± coefficient · 10 ^ exponent`. -/
structure Decimal where
  negative : Bool
  coefficient : Nat
  exponent : Int
deriving DecidableEq, Inhabited

namespace Decimal

/-- The power of ten just above the decimal: its magnitude is below `10 ^ magnitude` and not below
    a tenth of that. -/
def magnitude (d : Decimal) : Int := (width d.coefficient : Int) + d.exponent

/-- The nearest binary64 number. The largest finite number is below `10 ^ 309` and half of the
    least above `10 ^ -324`, so magnitudes outside need no arithmetic. -/
def toBinary64 (d : Decimal) : Binary64 :=
  if d.coefficient = 0 then .finite (Finite.zero d.negative)
  else if 309 < d.magnitude then .infinite d.negative
  else if d.magnitude < -323 then .finite (Finite.zero d.negative)
  else if 0 ≤ d.exponent then .ofRatio d.negative (d.coefficient * Nat.pow 10 d.exponent.toNat) 1
  else .ofRatio d.negative d.coefficient (Nat.pow 10 (-d.exponent).toNat)

/-- The decimal reads as the finite number `x`. -/
def reads (d : Decimal) (x : Finite) : Bool := d.toBinary64 = .finite x

/-- The same value without zeros at the end of the coefficient; zero has exponent zero. -/
def trimZeros (negative : Bool) (coefficient : Nat) (exponent : Int) : Decimal :=
  if coefficient = 0 then ⟨negative, 0, 0⟩
  else if coefficient % 10 = 0 then trimZeros negative (coefficient / 10) (exponent + 1)
  else ⟨negative, coefficient, exponent⟩
termination_by coefficient

/-- The two neighbours of the decimal with `places` digits, the nearer first; from two equally
    near ones the even one is first. -/
def neighbours (d : Decimal) (places : Nat) : List Decimal :=
  let dropped := width d.coefficient - places
  let unit := Nat.pow 10 dropped
  let low := d.coefficient / unit
  let twice := 2 * (d.coefficient % unit)
  let at_ (c : Nat) := trimZeros d.negative c (d.exponent + dropped)
  if unit < twice || (twice = unit && low % 2 = 1) then [at_ (low + 1), at_ low]
  else [at_ low, at_ (low + 1)]

end Decimal

/-! ## 2. The decimals of a finite number -/

namespace Finite

/-- The decimal with exactly the value of `x`; a half is five tenths, so a negative power of two
    is one of ten with a power of five in the coefficient. -/
def exactDecimal (x : Finite) : Decimal :=
  if 0 ≤ x.exponent then ⟨x.negative, x.significand * Nat.pow 2 x.exponent.toNat, 0⟩
  else ⟨x.negative, x.significand * Nat.pow 5 (-x.exponent).toNat, x.exponent⟩

/-- The decimals tried for `x`, those with fewer digits first. Seventeen digits always suffice. -/
def candidates (x : Finite) : List Decimal :=
  (List.range 17).flatMap fun n => x.exactDecimal.neighbours (n + 1)

/-- The decimal `x` is written with. -/
def shortest (x : Finite) : Decimal :=
  (x.candidates.find? (·.reads x)).getD x.exactDecimal

end Finite

end RadarCatalog.Numeric
