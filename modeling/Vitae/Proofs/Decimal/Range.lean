import Vitae.Proofs.Decimal.Rounding

/-!
The range of binary numbers. It leaves room for much beside any finite number that is met in
practice, and a result outside it is infinite, but still a number.
-/

namespace Vitae.Decimal

namespace Binary64

/-- A number of the extended line, as opposed to what is not a number. -/
def IsNumber (x : Binary64) : Prop := x.IsProper ∨ ∃ negative, x = .infinite negative

theorem Rounds.isNumber {r : Binary64} {x : ℚ} (h : Rounds r x) : r.IsNumber :=
  (lt_or_ge |x| overflow).imp h.proper h.infinite

theorem isFinite_of_isProper {x : Binary64} (h : x.IsProper) : x.isFinite := by
  cases x with
  | finite => rfl
  | infinite | nan => exact h.elim

theorem add_infinite {x : Binary64} (h : x.IsProper) (negative : Bool) :
    x + .infinite negative = .infinite negative := by
  cases x with
  | finite => rfl
  | infinite | nan => exact h.elim

/-- There is room for a million beside any finite number. -/
theorem add_lt_overflow {x : Binary64} (h : x.IsProper) {y : ℚ} (small : y ≤ 10 ^ 6) :
    y + |x.value| < overflow := by
  have room : (10 ^ 6 : ℚ) < 2 ^ 970 :=
    calc (10 ^ 6 : ℚ)
      _ < 2 ^ 20 := by norm_num
      _ ≤ 2 ^ 970 := pow_le_pow_right₀ one_le_two (by decide)
  have most := abs_value_le h
  rw [overflow]
  generalize (2 : ℚ) ^ 970 = unit at *
  linarith

theorem lt_overflow {y : ℚ} (small : y ≤ 10 ^ 6) : y < overflow :=
  calc y
    _ ≤ y + |zero.value| := le_add_of_nonneg_right (abs_nonneg _)
    _ < overflow := add_lt_overflow (by decide) small

theorem abs_value_lt_overflow {x : Binary64} (h : x.IsProper) : |x.value| < overflow := by
  simpa using add_lt_overflow h (by norm_num : (0 : ℚ) ≤ 10 ^ 6)

/-- A size far inside the range. -/
def reach : ℚ := 10 ^ 300

theorem reach_pos : 0 < reach := by
  rw [reach]
  positivity

theorem reach_le_overflow : 22000 * reach + 10 ^ 6 ≤ overflow := by
  have fits : reach ≤ 2 ^ 30 * 2 ^ 970 :=
    calc reach
      _ = (10 ^ 3) ^ 100 := by rw [reach, ← pow_mul]
      _ ≤ (2 ^ 10) ^ 100 := pow_le_pow_left₀ (by norm_num) (by norm_num) 100
      _ = 2 ^ 30 * 2 ^ 970 := by rw [← pow_mul, ← pow_add]
  have least : (1 : ℚ) ≤ 2 ^ 970 := one_le_pow₀ one_le_two
  rw [overflow]
  generalize (2 : ℚ) ^ 970 = unit at *
  linarith

theorem finiteOr_of_rounds {r : Binary64} {x : ℚ} (h : Rounds r x) :
    (|x| < overflow → finiteOr r = .ok r)
      ∧ (overflow ≤ |x| → finiteOr r = .error (.misuse .overflow)) := by
  refine ⟨fun within => if_pos (isFinite_of_isProper (h.proper within)), fun beyond => ?_⟩
  obtain ⟨negative, rfl⟩ := h.infinite beyond
  rfl

end Binary64

/-- A finite number is divided by a positive one, and refused if that leaves the range. -/
theorem Number.exists_divNat {n : Number} (h : n.IsFinite) {d : Nat} (pos : 0 < d) :
    ∃ r, Binary64.Rounds r (n.value / d) ∧ n.divNat d = finiteOr r := by
  cases n with
  | whole n =>
    refine ⟨Binary64.ofRatio (n < 0) n.natAbs d, Binary64.rounds_ofRatio _ _ pos ?_, rfl⟩
    rw [Number.value, abs_div, Nat.cast_natAbs, Int.cast_abs, Nat.abs_cast]
  | binary x =>
    have proper : x.IsProper := h
    have rounds := Binary64.rounds_divNat proper pos
    have within : |x.value / d| < Binary64.overflow := by
      have least : (1 : ℚ) ≤ d := by exact_mod_cast pos
      rw [abs_div, Nat.abs_cast]
      exact (div_le_self (abs_nonneg _) least).trans_lt (Binary64.abs_value_lt_overflow proper)
    exact ⟨x.divNat d, rounds, ((Binary64.finiteOr_of_rounds rounds).1 within).symm⟩

end Vitae.Decimal
