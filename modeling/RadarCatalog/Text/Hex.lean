/-!
# Hexadecimal digits

Digits are written in lower case and read in either case.
-/

namespace RadarCatalog.Text

/-- The lower-case digit of a number below sixteen. -/
def hexChar (d : Nat) : Char :=
  if d < 10 then Char.ofNat (48 + d) else Char.ofNat (87 + d)

/-- The value of a hexadecimal digit. -/
def hexValue? (c : Char) : Option Nat :=
  let n := c.toNat
  if 48 ≤ n && n ≤ 57 then some (n - 48)
  else if 97 ≤ n && n ≤ 102 then some (n - 87)
  else if 65 ≤ n && n ≤ 70 then some (n - 55)
  else none

/-- The four digits of a number below `2 ^ 16`. -/
def hexFour (n : Nat) : List Char :=
  [hexChar (n / 4096 % 16), hexChar (n / 256 % 16), hexChar (n / 16 % 16), hexChar (n % 16)]

/-- The digits of a number, with no zero in front. -/
def hexDigits (n : Nat) : List Char :=
  if n < 16 then [hexChar n] else hexDigits (n / 16) ++ [hexChar (n % 16)]
termination_by n

/-- A digit reads back as its value. -/
theorem hexValue?_hexChar : ∀ d, d < 16 → hexValue? (hexChar d) = some d := by decide

end RadarCatalog.Text
