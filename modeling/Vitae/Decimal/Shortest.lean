import Vitae.Decimal.Binary64

/-!
The shortest decimal that reads back as a given binary number. For one digit, two digits and so on
the two neighbours of the number on that decimal grid are tried in exact arithmetic; the first grid
with a hit wins, and of two hits the nearer one.
-/

namespace Vitae.Decimal

/-- `digits * 10 ^ (point - count)`, where `count` is the number of digits. -/
structure ShortForm where
  digits : List Nat
  point : Int
  deriving DecidableEq, Repr

def decimalDigitsFrom : Nat → Nat → List Nat → List Nat
  | 0, _, acc => acc
  | fuel + 1, n, acc =>
    if n < 10 then n :: acc else decimalDigitsFrom fuel (n / 10) (n % 10 :: acc)

/-- Decimal digits of a number, most significant first. -/
def decimalDigits (n : Nat) : List Nat := decimalDigitsFrom (Nat.log2 n + 1) n []

def digitChar (d : Nat) : Char := Char.ofNat ('0'.toNat + d)

def natText (n : Nat) : String := String.ofList ((decimalDigits n).map digitChar)

def intText (n : Int) : String :=
  if n < 0 then "-" ++ natText n.natAbs else natText n.natAbs

/-- The reals that round to a positive binary number, as numerators over one denominator. -/
structure RoundingInterval where
  low : Nat
  value : Nat
  high : Nat
  den : Nat
  closed : Bool

def roundingInterval (mantissa : Nat) (exponent : Int) : RoundingInterval :=
  let (unit, den) := scaled 2 1 4 exponent
  let below := if mantissa = Binary64.fullMantissa ∧ -1074 < exponent then 1 else 2
  ⟨(4 * mantissa - below) * unit, 4 * mantissa * unit, (4 * mantissa + 2) * unit, den,
    mantissa % 2 = 0⟩

def RoundingInterval.contains (i : RoundingInterval) (num den : Nat) : Bool :=
  if i.closed then i.low * den ≤ num * i.den && num * i.den ≤ i.high * den
  else i.low * den < num * i.den && num * i.den < i.high * den

/-- The least `p` with `value < 10 ^ p`, found by stepping from an estimate that is never too
large. -/
def decimalPoint (num den : Nat) : Int :=
  let guess : Int := ((Nat.log2 num : Int) - Nat.log2 den - 1) * 30103 / 100000 - 1
  go 6 guess
where
  go : Nat → Int → Int
    | 0, p => p
    | fuel + 1, p =>
      let (n, d) := scaled 10 num den (-p)
      if n < d then p else go fuel (p + 1)

/-- The best of the two neighbours on the grid of `10 ^ step`, if one rounds to the value. -/
def onGrid? (i : RoundingInterval) (step : Int) : Option Nat :=
  let (unitNum, unitDen) := scaled 10 1 1 step
  let lower := i.value * unitDen / (i.den * unitNum)
  let hit := fun (n : Nat) => i.contains (n * unitNum) unitDen
  let twice := 2 * i.value * unitDen
  let middle := (2 * lower + 1) * i.den * unitNum
  let lowerFirst := twice < middle || (twice == middle && lower % 2 == 0)
  match hit lower, hit (lower + 1) with
  | true, true => some (if lowerFirst then lower else lower + 1)
  | true, false => some lower
  | false, true => some (lower + 1)
  | false, false => none

def dropTrailingZeros (ds : List Nat) : List Nat := (ds.reverse.dropWhile (· == 0)).reverse

/-- Tries grids from coarse to fine. -/
def searchGrids (i : RoundingInterval) (point : Int) : Nat → Nat → ShortForm
  | 0, _ => ⟨[], point⟩
  | fuel + 1, count =>
    match onGrid? i (point - count) with
    | some n =>
      let ds := decimalDigits n
      ⟨dropTrailingZeros ds, point - count + ds.length⟩
    | none => searchGrids i point fuel (count + 1)

/-- The shortest form of a positive number. -/
def shortForm (mantissa : Nat) (exponent : Int) : ShortForm :=
  let i := roundingInterval mantissa exponent
  searchGrids i (decimalPoint i.value i.den) 18 1

def zeros (n : Nat) : List Char := List.replicate n '0'

/-- Positional from `1e-4` up to below `1e16`, with at least one place after the point; otherwise
one digit before the point and an exponent of at least two digits. -/
def ShortForm.text (f : ShortForm) : String :=
  let ds := f.digits.map digitChar
  let count := ds.length
  if -4 < f.point && f.point ≤ 16 then
    if f.point ≤ 0 then String.ofList ('0' :: '.' :: zeros (-f.point).toNat ++ ds)
    else if (count : Int) ≤ f.point then
      String.ofList (ds ++ zeros (f.point.toNat - count) ++ ['.', '0'])
    else String.ofList (ds.take f.point.toNat ++ '.' :: ds.drop f.point.toNat)
  else
    let e := f.point - 1
    let digits := natText e.natAbs
    let mark := (if e < 0 then "e-" else "e+") ++ (if digits.length < 2 then "0" else "") ++ digits
    String.ofList (ds.take 1 ++ (if count = 1 then [] else '.' :: ds.drop 1)) ++ mark

def Binary64.text : Binary64 → String
  | .nan => "nan"
  | .infinite s => if s then "-inf" else "inf"
  | .finite s m e =>
    (if s then "-" else "") ++ (if m = 0 then "0.0" else (shortForm m e).text)

end Vitae.Decimal
