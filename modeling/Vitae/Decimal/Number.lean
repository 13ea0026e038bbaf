import Vitae.Fault

/-!
Numbers as they occur in JSON, whole or binary, with the few operations that colours and times need.
A whole number enters binary arithmetic exactly where a division follows, and rounded otherwise.
-/

namespace Vitae.Decimal

inductive Number where
  | whole (n : Int)
  | binary (x : Binary64)
  deriving DecidableEq, Repr

/-- A JSON value as a number; truth values count as one and zero. -/
def Number.ofJson? : Json → Option Number
  | .bool b => some (.whole (if b then 1 else 0))
  | .int n => some (.whole n)
  | .float x => some (.binary x)
  | _ => none

def Number.ofJson (value : Json) : Checked Number :=
  match Number.ofJson? value with
  | some n => .ok n
  | none => .error (.misuse .wrongType)

def finiteOr (x : Binary64) : Checked Binary64 :=
  if x.isFinite then .ok x else .error (.misuse .overflow)

namespace Number

/-- The quotient by a positive whole number; a whole dividend is divided exactly and then rounded.
-/
def divNat (n : Number) (d : Nat) : Checked Binary64 :=
  match n with
  | .whole n => finiteOr (Binary64.ofRatio (n < 0) n.natAbs d)
  | .binary x => .ok (x.divNat d)

def scale (k : Nat) : Number → Number
  | .whole n => .whole (k * n)
  | .binary x => .binary (Binary64.ofInt k * x)

/-- As a binary number; whole numbers beyond its range are refused. -/
def toBinary : Number → Checked Binary64
  | .whole n => finiteOr (Binary64.ofInt n)
  | .binary x => .ok x

/-- The same number in binary. -/
def rounded (n : Number) : Checked Number := n.toBinary.map .binary

/-- The nearest integer, a tie going to the even one. -/
def round : Number → Checked Int
  | .whole n => .ok n
  | .binary x =>
    match x with
    | .nan => .error (.misuse .badValue)
    | .infinite _ => .error (.misuse .overflow)
    | x => .ok (x.round?.getD 0)

/-- Whether a whole number is at most a binary one. -/
def wholeAtMost (n : Int) : Binary64 → Bool
  | .nan => false
  | .infinite negative => !negative
  | x => x.ratio?.any fun (num, den) => n * den ≤ num

/-- Whether a binary number is at most a whole one. -/
def atMostWhole (n : Int) : Binary64 → Bool
  | .nan => false
  | .infinite negative => negative
  | x => x.ratio?.any fun (num, den) => num ≤ n * den

/-- The exact order, which holds of no pair with something that is not a number. -/
def le : Number → Number → Bool
  | .whole m, .whole n => m ≤ n
  | .whole m, .binary y => wholeAtMost m y
  | .binary x, .whole n => atMostWhole n x
  | .binary x, .binary y => x.le y

def lt (x y : Number) : Bool := le x y && !le y x

/-- Whole numbers are added exactly; otherwise the whole one is rounded first. -/
def add : Number → Number → Number
  | .whole m, .whole n => .whole (m + n)
  | .whole m, .binary y => .binary (Binary64.ofInt m + y)
  | .binary x, .whole n => .binary (x + Binary64.ofInt n)
  | .binary x, .binary y => .binary (x + y)

def abs : Number → Number
  | .whole n => .whole n.natAbs
  | .binary x => .binary x.abs

/-- The difference, which is refused where a whole number is too large to be rounded. -/
def sub (x y : Number) : Checked Number :=
  match x, y with
  | .whole m, .whole n => .ok (.whole (m - n))
  | x, y => do return .binary ((← x.toBinary) - (← y.toBinary))

instance : Add Number := ⟨add⟩
instance : LT Number := ⟨fun x y => lt x y⟩
instance : DecidableLT Number := fun x y => inferInstanceAs (Decidable (lt x y))

end Number

end Vitae.Decimal
