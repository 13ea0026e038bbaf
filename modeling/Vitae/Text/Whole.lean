import Vitae.Text.Blank
import Vitae.Text.Digit

/-!
Whole numbers as people write them: a sign, and digits of any script, which single underscores may
keep apart.
-/

namespace Vitae.Text

/-- The digits of a numeral from its front, each with the underscore before it taken away. -/
def numeralDigits? : List Char → Option (List Nat)
  | [] => none
  | [c] => (digitValue? c).map fun d => [d]
  | c :: '_' :: rest => do return (← digitValue? c) :: (← numeralDigits? rest)
  | c :: rest => do return (← digitValue? c) :: (← numeralDigits? rest)

def ofDigits (digits : List Nat) : Nat := digits.foldl (fun n d => 10 * n + d) 0

/-- Longer numerals are not read. -/
def numeralLimit : Nat := 4300

def natural? (cs : List Char) : Option Nat := do
  let digits ← numeralDigits? cs
  if digits.length ≤ numeralLimit then return ofDigits digits else none

/-- The whole number a text is, white space around it apart. -/
def whole? (s : String) : Option Int :=
  match trimChars s.toList with
  | '-' :: rest => (natural? rest).map fun n => -(n : Int)
  | '+' :: rest => (natural? rest).map Int.ofNat
  | cs => (natural? cs).map Int.ofNat

end Vitae.Text
