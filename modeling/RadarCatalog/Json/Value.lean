import RadarCatalog.Fields
import RadarCatalog.Numeric.Numeral

/-!
# JSON values

A value is a scalar, a list of values or an object with ordered fields.

* A number is an integer of the range that 64 bits hold, signed or unsigned, or a finite binary64
  number: `1` and `1.0` are different values.
* Two equalities stand side by side. `=` is equality of the data, which tells `0.0` from `-0.0`;
  `Scalar.sameValue` is equality as values, which does not.
-/

namespace RadarCatalog.Json

open RadarCatalog.Numeric

/-! ## 1. Numbers -/

/-- An integer from `-2 ^ 63` up to `2 ^ 64`, the end left out. -/
structure Integer where
  val : Int
  lower : -0x8000000000000000 ≤ val
  upper : val < 0x10000000000000000
deriving DecidableEq

/-- A number: an integer or a finite binary64 number. -/
inductive Number where
  | integer (z : Integer)
  | real (x : Finite)
deriving DecidableEq

namespace Number

/-- The integer as a number, where it is in range. -/
def ofInt? (z : Int) : Option Number :=
  if h : -0x8000000000000000 ≤ z ∧ z < 0x10000000000000000 then some (.integer ⟨z, h.1, h.2⟩)
  else none

/-- Equality as values: an integer is never equal to a binary64 number. -/
def sameValue : Number → Number → Bool
  | .integer a, .integer b => a = b
  | .real x, .real y => x.sameValue y
  | _, _ => false

/-- The text of a number. -/
def text : Number → List Char
  | .integer z => signedDigits z.val
  | .real x => x.text

/-- The number a numeral stands for. An integer literal in range is an integer, save `-0`, which
    is the negative zero; every other numeral is rounded, and `none` is an overflow. -/
def ofNumeral? (integral : Bool) (n : Numeral) : Option Number :=
  let rounded := n.decimal.toBinary64.finite?.map Number.real
  if integral then
    let magnitude := ofDigits n.whole
    if n.negative && magnitude = 0 then rounded
    else (ofInt? (if n.negative then -(magnitude : Int) else magnitude)).or rounded
  else rounded

end Number

/-! ## 2. Scalars and values -/

/-- A value without parts. -/
inductive Scalar where
  | null
  | bool (b : Bool)
  | number (n : Number)
  | string (s : String)
deriving DecidableEq

/-- Equality as values. -/
def Scalar.sameValue : Scalar → Scalar → Bool
  | .null, .null => true
  | .bool a, .bool b => a = b
  | .number a, .number b => a.sameValue b
  | .string a, .string b => a = b
  | _, _ => false

/-- The number of a datum that is finite, and null for one that is not. -/
def Scalar.ofBinary64 : Binary64 → Scalar
  | .finite x => .number (.real x)
  | _ => .null

@[simp] theorem Scalar.ofBinary64_finite (x : Finite) :
    ofBinary64 (.finite x) = .number (.real x) := rfl

@[simp] theorem Scalar.ofBinary64_infinite (negative : Bool) :
    ofBinary64 (.infinite negative) = .null := rfl

@[simp] theorem Scalar.ofBinary64_nan : ofBinary64 .nan = .null := rfl

/-- A JSON value. -/
inductive Value where
  | scalar (s : Scalar)
  | list (items : List Value)
  | object (fields : List (String × Value))
deriving Inhabited

namespace Value

/-- The items of a list; other values have none. -/
def items : Value → List Value
  | .list vs => vs
  | _ => []

/-- The fields of an object; other values have none. -/
def fields : Value → Fields Value
  | .object fs => fs
  | _ => []

/-- The scalar, where the value is one. -/
def scalar? : Value → Option Scalar
  | .scalar s => some s
  | _ => none

end Value

instance : Inhabited Scalar := ⟨.null⟩

end RadarCatalog.Json
