import RadarCatalog.Numeric.Decimal

/-!
# Written numerals

* `Finite.text` writes a finite number: the shortest digits that read back, positional where the
  decimal exponent is from -5 to 15 and with a signed exponent elsewhere, always with a point or an
  exponent;
* `Numeral` is a numeral taken apart into sign, digits before and after the point, and exponent;
* `Numeral.scan?` takes a free decimal numeral apart: an optional sign, digits on at least one
  side of an optional point, an optional exponent;
* `readFinite?` reads such a numeral as a finite binary64 number.
-/

namespace RadarCatalog.Numeric

/-! ## 1. Writing -/

/-- An exponent with its sign, plus included. -/
def exponentText (z : Int) : List Char :=
  (if z < 0 then '-' else '+') :: digits z.natAbs

/-- The layout of a decimal without zeros at the end of its coefficient. -/
def Decimal.layout (d : Decimal) : List Char :=
  let ds := digits d.coefficient
  let point : Int := (ds.length : Int) + d.exponent
  if 0 ≤ d.exponent && point ≤ 16 then
    ds ++ List.replicate d.exponent.toNat '0' ++ ['.', '0']
  else if 0 < point && point ≤ 16 then
    ds.take point.toNat ++ '.' :: ds.drop point.toNat
  else if -5 < point && point ≤ 0 then
    '0' :: '.' :: List.replicate (-point).toNat '0' ++ ds
  else
    let fraction := if ds.length = 1 then [] else '.' :: ds.drop 1
    ds.take 1 ++ fraction ++ 'e' :: exponentText (point - 1)

/-- The text of a finite number. -/
def Finite.text (x : Finite) : List Char :=
  let d := x.shortest
  if d.negative then '-' :: d.layout else d.layout

/-! ## 2. Numerals -/

/-- A numeral taken apart; `whole` and `fraction` hold digit characters. -/
structure Numeral where
  negative : Bool
  whole : List Char
  fraction : List Char
  exponent : Int
deriving DecidableEq

/-- The decimal a numeral stands for. -/
def Numeral.decimal (n : Numeral) : Decimal :=
  ⟨n.negative, ofDigits (n.whole ++ n.fraction), n.exponent - n.fraction.length⟩

/-- A sign in front, plus or minus, and the rest; no sign counts as plus. -/
def splitSign : List Char → Bool × List Char
  | '-' :: cs => (true, cs)
  | '+' :: cs => (false, cs)
  | cs => (false, cs)

/-- The exponent part of a numeral: nothing, or `e` with an optional sign and digits to the end. -/
def scanExponent? : List Char → Option Int
  | [] => some 0
  | c :: cs =>
    if c = 'e' || c = 'E' then
      let (negative, ds) := splitSign cs
      if ds.isEmpty || !ds.all isDigit then none
      else some (if negative then -(ofDigits ds : Int) else (ofDigits ds : Int))
    else none

/-- The digits after an optional point, and what follows them. -/
def splitFraction : List Char → List Char × List Char
  | '.' :: cs => (cs.takeWhile isDigit, cs.dropWhile isDigit)
  | cs => ([], cs)

/-- Takes a decimal numeral apart; `none` where the whole text is not one. -/
def Numeral.scan? (cs : List Char) : Option Numeral :=
  let (negative, unsigned) := splitSign cs
  let whole := unsigned.takeWhile isDigit
  let (fraction, rest) := splitFraction (unsigned.dropWhile isDigit)
  if whole.isEmpty && fraction.isEmpty then none
  else (scanExponent? rest).map fun exponent => ⟨negative, whole, fraction, exponent⟩

/-- The finite number that a numeral reads as; `none` where the text is no numeral or is beyond
    the range. -/
def readFinite? (cs : List Char) : Option Finite :=
  (Numeral.scan? cs).bind fun n => n.decimal.toBinary64.finite?

end RadarCatalog.Numeric
