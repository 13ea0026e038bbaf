/-!
Binary floating point of width 64 in exact natural arithmetic. A finite number is a mantissa below
`2 ^ 53` times a power of two. Every operation computes the exact result and rounds it once, to the
nearest number, a tie to the even mantissa.
-/

namespace Vitae.Decimal

inductive Binary64 where
  | finite (negative : Bool) (mantissa : Nat) (exponent : Int)
  | infinite (negative : Bool)
  | nan
  deriving DecidableEq, Repr

/-- The integer nearest to `num / den`, a tie going to the even one. -/
def roundDiv (num den : Nat) : Nat :=
  let quotient := num / den
  let twice := 2 * (num % den)
  if twice < den then quotient
  else if den < twice then quotient + 1
  else quotient + quotient % 2

/-- `num / den * base ^ exponent` as a numerator over a denominator. -/
def scaled (base num den : Nat) (exponent : Int) : Nat × Nat :=
  if 0 ≤ exponent then (num * Nat.pow base exponent.toNat, den)
  else (num, den * Nat.pow base (-exponent).toNat)

namespace Binary64

/-- One more than the greatest mantissa. -/
def mantissaBound : Nat := 0x20000000000000

/-- The least mantissa of a number that has all 53 bits. -/
def fullMantissa : Nat := 0x10000000000000

def zeroOf (negative : Bool) : Binary64 := .finite negative 0 (-1074)

def zero : Binary64 := zeroOf false

/-- The exponent that gives `num / den` a mantissa of 53 bits, or the least exponent there is. -/
def exponentFor (num den : Nat) : Int :=
  let guess : Int := (Nat.log2 num : Int) - Nat.log2 den - 52
  let (n, d) := scaled 2 num den (-guess)
  max (if n < fullMantissa * d then guess - 1 else guess) (-1074)

/-- The number nearest to `± num / den`. -/
def ofRatio (negative : Bool) (num den : Nat) : Binary64 :=
  if num = 0 then zeroOf negative
  else
    let e := exponentFor num den
    let (n, d) := scaled 2 num den (-e)
    let mantissa := roundDiv n d
    let (m, e) := if mantissa = mantissaBound then (fullMantissa, e + 1) else (mantissa, e)
    if 971 < e then .infinite negative else .finite negative m e

/-- A whole number of units `2 ^ exponent`, rounded. -/
def ofDyadic (negative : Bool) (units : Nat) (exponent : Int) : Binary64 :=
  let (n, d) := scaled 2 units 1 exponent
  ofRatio negative n d

def ofInt (n : Int) : Binary64 := ofRatio (n < 0) n.natAbs 1

/-- The number nearest to `± digits * 10 ^ exponent`. Exponents far outside the range are settled
without computing the power. -/
def ofDecimal (negative : Bool) (digits : Nat) (exponent : Int) : Binary64 :=
  if digits = 0 then zeroOf negative
  else
    let size : Int := Nat.log2 digits * 30103 / 100000
    if 400 < exponent + size then .infinite negative
    else if exponent + size < -400 then zeroOf negative
    else
      let (n, d) := scaled 10 digits 1 exponent
      ofRatio negative n d

def isFinite : Binary64 → Bool
  | .finite .. => true
  | _ => false

def isZero : Binary64 → Bool
  | .finite _ m _ => m == 0
  | _ => false

def neg : Binary64 → Binary64
  | .finite s m e => .finite (!s) m e
  | .infinite s => .infinite (!s)
  | .nan => .nan

/-- Signed units of `2 ^ exponent` in a finite number whose own exponent is not smaller. -/
def unitsAt (exponent : Int) (negative : Bool) (mantissa : Nat) (own : Int) : Int :=
  let units : Int := (mantissa * Nat.pow 2 (own - exponent).toNat : Nat)
  if negative then -units else units

def add : Binary64 → Binary64 → Binary64
  | .nan, _ => .nan
  | _, .nan => .nan
  | .infinite s, .infinite t => if s == t then .infinite s else .nan
  | .infinite s, _ => .infinite s
  | _, .infinite t => .infinite t
  | .finite s m e, .finite t n f =>
    let common := min e f
    let sum := unitsAt common s m e + unitsAt common t n f
    if sum = 0 then zeroOf (s && t) else ofDyadic (sum < 0) sum.natAbs common

def sub (x y : Binary64) : Binary64 := add x (neg y)

def mul : Binary64 → Binary64 → Binary64
  | .nan, _ => .nan
  | _, .nan => .nan
  | .infinite s, .finite t n _ => if n = 0 then .nan else .infinite (s ^^ t)
  | .finite s m _, .infinite t => if m = 0 then .nan else .infinite (s ^^ t)
  | .infinite s, .infinite t => .infinite (s ^^ t)
  | .finite s m e, .finite t n f => ofDyadic (s ^^ t) (m * n) (e + f)

/-- Division by a positive whole number. -/
def divNat (x : Binary64) (n : Nat) : Binary64 :=
  match x with
  | .nan => .nan
  | .infinite s => .infinite s
  | .finite s m e =>
    let (num, den) := scaled 2 m n e
    ofRatio s num den

def div : Binary64 → Binary64 → Binary64
  | .nan, _ => .nan
  | _, .nan => .nan
  | .infinite _, .infinite _ => .nan
  | .infinite s, .finite t _ _ => .infinite (s ^^ t)
  | .finite s _ _, .infinite t => zeroOf (s ^^ t)
  | .finite s m e, .finite t n f =>
    if n = 0 then if m = 0 then .nan else .infinite (s ^^ t)
    else
      let (num, den) := scaled 2 m n (e - f)
      ofRatio (s ^^ t) num den

/-- The exact value as a signed numerator over a positive denominator. -/
def ratio? : Binary64 → Option (Int × Nat)
  | .finite s m e =>
    let (n, d) := scaled 2 m 1 e
    some (if s then -(n : Int) else n, d)
  | _ => none

/-- Order of numbers; false as soon as one side is not a number. -/
def le (x y : Binary64) : Bool :=
  match x, y with
  | .nan, _ => false
  | _, .nan => false
  | .infinite true, _ => true
  | _, .infinite false => true
  | .infinite false, _ => false
  | _, .infinite true => false
  | .finite s m e, .finite t n f =>
    let common := min e f
    unitsAt common s m e ≤ unitsAt common t n f

def lt (x y : Binary64) : Bool := le x y && !le y x

/-- Numeric equality: both zeros are equal and nothing equals what is not a number. -/
def same (x y : Binary64) : Bool := le x y && le y x

def abs : Binary64 → Binary64
  | .finite _ m e => .finite false m e
  | .infinite _ => .infinite false
  | .nan => .nan

/-- The nearest integer to a finite number, a tie going to the even one. -/
def round? : Binary64 → Option Int
  | .finite s m e =>
    let (n, d) := scaled 2 m 1 e
    let n := roundDiv n d
    some (if s then -(n : Int) else n)
  | _ => none

instance : Add Binary64 := ⟨add⟩
instance : Sub Binary64 := ⟨sub⟩
instance : Mul Binary64 := ⟨mul⟩
instance : Div Binary64 := ⟨div⟩
instance : Neg Binary64 := ⟨neg⟩
instance : LT Binary64 := ⟨fun x y => lt x y⟩
instance : DecidableLT Binary64 := fun x y => inferInstanceAs (Decidable (lt x y))

end Binary64

end Vitae.Decimal
