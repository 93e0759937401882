import RadarCatalog.Toml.Scan

/-!
# Dates and times

A moment is a date, a time of day, or both, and with both there may be an offset from universal
time. `moment` scans one and `Moment.text` writes it in one form: a capital `T` between date and
time, a fraction of at most nine digits without zeros at its end, and no sign on a zero offset but
the plus.
-/

namespace RadarCatalog.Toml

open RadarCatalog.Numeric

/-! ## 1. Moments -/

/-- A day of a year. -/
structure Date where
  year : Nat
  month : Nat
  day : Nat
deriving DecidableEq

/-- A time of day; `fraction` holds the digits of a fraction of a second. -/
structure Time where
  hour : Nat
  minute : Nat
  second : Nat
  fraction : List Char
deriving DecidableEq

/-- The distance from universal time: none, or minutes ahead of it or behind it. -/
inductive Offset where
  | universal
  | minutes (behind : Bool) (count : Nat)
deriving DecidableEq

/-- A date, a time of day, or both. -/
inductive Moment where
  | date (d : Date)
  | time (t : Time)
  | both (d : Date) (t : Time) (offset : Option Offset)
deriving DecidableEq

/-! ## 2. Writing -/

/-- A number with zeros in front, in this many places. -/
def padded (places n : Nat) : List Char :=
  let ds := digits n
  List.replicate (places - ds.length) '0' ++ ds

/-- A date as it is written. -/
def Date.text (d : Date) : List Char :=
  padded 4 d.year ++ '-' :: padded 2 d.month ++ '-' :: padded 2 d.day

/-- The first nine digits of a fraction, without zeros at the end. -/
def trimFraction (ds : List Char) : List Char :=
  ((ds.take 9).reverse.dropWhile (· = '0')).reverse

/-- A time of day as it is written. -/
def Time.text (t : Time) : List Char :=
  padded 2 t.hour ++ ':' :: padded 2 t.minute ++ ':' :: padded 2 t.second ++
    match trimFraction t.fraction with
    | [] => []
    | ds => '.' :: ds

/-- An offset as it is written. -/
def Offset.text : Offset → List Char
  | .universal => ['Z']
  | .minutes behind count =>
    (if behind && count ≠ 0 then '-' else '+') :: padded 2 (count / 60) ++
      ':' :: padded 2 (count % 60)

/-- A moment as it is written. -/
def Moment.text : Moment → List Char
  | .date d => d.text
  | .time t => t.text
  | .both d t offset => d.text ++ 'T' :: t.text ++ (offset.map Offset.text).getD []

/-! ## 3. Scanning -/

/-- A number of exactly this many digits, within bounds. -/
def fixedDigits (count low high : Nat) : Scanner Nat := fun cs =>
  let ds := cs.take count
  let n := ofDigits ds
  if ds.length = count && ds.all isDigit && low ≤ n && n ≤ high then some (n, cs.drop count)
  else none

/-- The text after a character, where it is in front. -/
def expect? (c : Char) : List Char → Option (List Char)
  | d :: cs => if c = d then some cs else none
  | [] => none

/-- The days of a month of a year. -/
def daysIn (year month : Nat) : Nat :=
  if month = 2 then
    if year % 4 = 0 && (year % 100 ≠ 0 || year % 400 = 0) then 29 else 28
  else if month = 4 || month = 6 || month = 9 || month = 11 then 30
  else 31

/-- A date. -/
def date : Scanner Date := fun cs => do
  let (year, cs) ← fixedDigits 4 0 9999 cs
  let cs ← expect? '-' cs
  let (month, cs) ← fixedDigits 2 1 12 cs
  let cs ← expect? '-' cs
  let (day, cs) ← fixedDigits 2 1 (daysIn year month) cs
  return (⟨year, month, day⟩, cs)

/-- The digits of a fraction of a second, if any. -/
def secondFraction (cs : List Char) : List Char × List Char :=
  match cs with
  | '.' :: c :: rest => if isDigit c then (c :: rest).span isDigit else ([], cs)
  | cs => ([], cs)

/-- A time of day. -/
def time : Scanner Time := fun cs => do
  let (hour, cs) ← fixedDigits 2 0 23 cs
  let cs ← expect? ':' cs
  let (minute, cs) ← fixedDigits 2 0 59 cs
  let cs ← expect? ':' cs
  let (second, cs) ← fixedDigits 2 0 60 cs
  let (fraction, cs) := secondFraction cs
  return (⟨hour, minute, second, fraction⟩, cs)

/-- An offset of hours and minutes. -/
def clockOffset (behind : Bool) : Scanner Offset := fun cs => do
  let (hours, cs) ← fixedDigits 2 0 23 cs
  let cs ← expect? ':' cs
  let (minutes, cs) ← fixedDigits 2 0 59 cs
  return (.minutes behind (60 * hours + minutes), cs)

/-- An offset from universal time. -/
def offset : Scanner Offset
  | 'Z' :: cs | 'z' :: cs => some (.universal, cs)
  | '+' :: cs => clockOffset false cs
  | '-' :: cs => clockOffset true cs
  | _ => none

/-- A time of day after a date, with its offset if it has one. -/
def timeOf (d : Date) : Scanner Moment := fun cs => do
  let (t, cs) ← time cs
  return match offset cs with
    | some (o, cs) => (.both d t (some o), cs)
    | none => (.both d t none, cs)

/-- A date, a time, or both with a `T` or a space between them. -/
def moment : Scanner Moment := fun cs =>
  match date cs with
  | none => (time cs).map fun (t, cs) => (.time t, cs)
  | some (d, rest) =>
    match rest with
    | 'T' :: after | 't' :: after | ' ' :: after =>
      some ((timeOf d after).getD (.date d, rest))
    | rest => some (.date d, rest)

end RadarCatalog.Toml
