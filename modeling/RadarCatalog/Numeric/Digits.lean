/-!
# Decimal digits of a natural number

* `digits n` writes `n` in base ten, the most significant digit first and no zero in front;
* `ofDigits` reads a run of digit characters, zeros in front allowed;
* `width n` is the number of digits of `n`, counted without writing them.

`ofDigits` reads what `digits` writes; both are recursions on the number, so nothing here depends
on how the language itself prints numbers.
-/

namespace RadarCatalog.Numeric

/-! ## 1. One digit -/

/-- The character of a digit below ten. -/
def digitChar (d : Nat) : Char := Char.ofNat (48 + d)

/-- The value of a digit character. -/
def digitValue (c : Char) : Nat := c.toNat - 48

/-- The ten digit characters, and no others. -/
def isDigit (c : Char) : Bool := 48 ≤ c.toNat && c.toNat ≤ 57

/-! ## 2. Runs of digits -/

/-- The digits of `n` in front of `tail`. -/
def digitsBefore (n : Nat) (tail : List Char) : List Char :=
  if n < 10 then digitChar n :: tail
  else digitsBefore (n / 10) (digitChar (n % 10) :: tail)
termination_by n

/-- The digits of `n`; zero is written with one digit. -/
def digits (n : Nat) : List Char := digitsBefore n []

/-- The number a run of digits stands for; the empty run stands for zero. -/
def ofDigits (cs : List Char) : Nat := cs.foldl (fun n c => 10 * n + digitValue c) 0

/-- How many digits `n` is written with. -/
def width (n : Nat) : Nat :=
  if n < 10 then 1 else width (n / 10) + 1
termination_by n

/-- The digits of an integer, a minus in front of a negative one. -/
def signedDigits (z : Int) : List Char :=
  if z < 0 then '-' :: digits z.natAbs else digits z.natAbs

/-! ## 3. Small facts -/

theorem digits_of_lt {n : Nat} (h : n < 10) : digits n = [digitChar n] := by
  unfold digits
  rw [digitsBefore, if_pos h]

theorem digitsBefore_eq (n : Nat) (tail : List Char) :
    digitsBefore n tail = digits n ++ tail := by
  suffices h : ∀ front, digitsBefore n (front ++ tail) = digitsBefore n front ++ tail from h []
  induction n using Nat.strongRecOn with
  | _ n ih =>
    intro front
    rw [digitsBefore.eq_def n (front ++ tail), digitsBefore.eq_def n front]
    split
    · rfl
    · exact ih (n / 10) (by omega) (digitChar (n % 10) :: front)

/-- The digits of a number of two digits or more end with its last digit. -/
theorem digits_of_le {n : Nat} (h : 10 ≤ n) :
    digits n = digits (n / 10) ++ [digitChar (n % 10)] := by
  rw [← digitsBefore_eq]
  conv => lhs; unfold digits; rw [digitsBefore]
  rw [if_neg (by omega)]

end RadarCatalog.Numeric
