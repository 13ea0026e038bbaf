import Vitae.Decimal.Shortest
import Vitae.Proofs.Text.Lacks

/-!
Decimal digits of natural numbers. They are digits, and they tell the number.
-/

namespace Vitae.Decimal

/-- The number that decimal digits come to, behind those of another number. -/
def appendDigits (n : Nat) (digits : List Nat) : Nat := digits.foldl (fun n d => 10 * n + d) n

theorem appendDigits_decimalDigitsFrom {fuel n : Nat} (enough : n < Nat.pow 2 fuel)
    (acc : List Nat) : appendDigits 0 (decimalDigitsFrom fuel n acc) = appendDigits n acc := by
  induction fuel generalizing n acc with
  | zero =>
    have one : Nat.pow 2 0 = 1 := rfl
    obtain rfl : n = 0 := by omega
    rfl
  | succ fuel ih =>
    have double : Nat.pow 2 (fuel + 1) = Nat.pow 2 fuel * 2 := rfl
    rw [decimalDigitsFrom]
    split
    · simp [appendDigits]
    · rw [ih (by omega)]
      have whole : 10 * (n / 10) + n % 10 = n := by omega
      rw [appendDigits, List.foldl_cons, whole]
      rfl

/-- The digits of a number come to that number. -/
theorem appendDigits_decimalDigits (n : Nat) : appendDigits 0 (decimalDigits n) = n :=
  appendDigits_decimalDigitsFrom Nat.lt_log2_self []

theorem decimalDigitsFrom_lt (fuel n : Nat) {acc : List Nat} (h : ∀ d ∈ acc, d < 10) :
    ∀ d ∈ decimalDigitsFrom fuel n acc, d < 10 := by
  induction fuel generalizing n acc with
  | zero => exact h
  | succ fuel ih =>
    have more (d : Nat) (small : d < 10) : ∀ e ∈ d :: acc, e < 10 := by
      intro e mem
      rcases List.mem_cons.mp mem with rfl | mem
      · exact small
      · exact h e mem
    rw [decimalDigitsFrom]
    split
    · next small => exact more n small
    · exact ih _ (more _ (by omega))

theorem decimalDigits_lt (n : Nat) : ∀ d ∈ decimalDigits n, d < 10 :=
  decimalDigitsFrom_lt _ n (by simp)

theorem decimalDigitsFrom_ne_nil (fuel n : Nat) {acc : List Nat} (some : acc ≠ []) :
    decimalDigitsFrom fuel n acc ≠ [] := by
  induction fuel generalizing n acc with
  | zero => exact some
  | succ fuel ih =>
    rw [decimalDigitsFrom]
    split
    · simp
    · exact ih _ (by simp)

theorem decimalDigits_ne_nil (n : Nat) : decimalDigits n ≠ [] := by
  rw [decimalDigits, decimalDigitsFrom]
  split
  · simp
  · exact decimalDigitsFrom_ne_nil _ _ (by simp)

theorem natText_ne_empty (n : Nat) : natText n ≠ "" := by
  simpa [natText, String.ofList_eq_empty_iff] using decimalDigits_ne_nil n

def isDecimalDigit (c : Char) : Bool := '0' ≤ c && c ≤ '9'

theorem isDecimalDigit_digitChar {d : Nat} (h : d < 10) : isDecimalDigit (digitChar d) := by
  have each : ∀ d < 10, isDecimalDigit (digitChar d) = true := by decide
  exact each d h

theorem digitChar_injective {d e : Nat} (hd : d < 10) (he : e < 10)
    (same : digitChar d = digitChar e) : d = e := by
  have each : ∀ d < 10, ∀ e < 10, digitChar d = digitChar e → d = e := by decide
  exact each d hd e he same

theorem isDecimalDigit_of_mem_natText {n : Nat} {c : Char} (mem : c ∈ (natText n).toList) :
    isDecimalDigit c := by
  rw [natText, String.toList_ofList] at mem
  obtain ⟨d, inside, rfl⟩ := List.mem_map.mp mem
  exact isDecimalDigit_digitChar (decimalDigits_lt n d inside)

/-- A numeral lacks whatever is no digit. -/
theorem lacks_natText {mark : Char} (h : isDecimalDigit mark = false) (n : Nat) :
    Lacks mark (natText n) := by
  intro mem
  rw [isDecimalDigit_of_mem_natText mem] at h
  exact absurd h (by decide)

theorem map_digitChar_injective {ds es : List Nat} (hd : ∀ d ∈ ds, d < 10) (he : ∀ e ∈ es, e < 10)
    (same : ds.map digitChar = es.map digitChar) : ds = es := by
  induction ds generalizing es with
  | nil => simpa using same
  | cons d ds ih =>
    cases es with
    | nil => simp at same
    | cons e es =>
      simp only [List.map_cons, List.cons.injEq] at same
      obtain ⟨first, rest⟩ := same
      have head := digitChar_injective (hd d (by simp)) (he e (by simp)) first
      have tail := ih (fun d mem => hd d (List.mem_cons_of_mem _ mem))
        (fun e mem => he e (List.mem_cons_of_mem _ mem)) rest
      rw [head, tail]

/-- Numerals of different numbers differ. -/
theorem natText_injective {n m : Nat} (same : natText n = natText m) : n = m := by
  have digits := map_digitChar_injective (decimalDigits_lt n) (decimalDigits_lt m)
    (String.ofList_injective same)
  rw [← appendDigits_decimalDigits n, digits, appendDigits_decimalDigits]

end Vitae.Decimal
