import Mathlib.Algebra.Order.Field.Power
import Mathlib.Data.Rat.Floor
import Mathlib.Tactic.FieldSimp
import Mathlib.Tactic.Linarith
import Mathlib.Tactic.NormNum
import Mathlib.Tactic.Positivity
import Mathlib.Tactic.Ring
import Vitae.Decimal.Number

/-!
Rounding. The quotient of two natural numbers and the number nearest to a binary one are rounded to
the nearest integer, a tie going to the even one. Each operation on binary numbers gives a finite
number, not much greater than the exact result, unless that is beyond the range.
-/

namespace Vitae.Decimal

/-! The nearest integer -/

/-- The nearest integer to a rational number, a tie going to the even one. -/
def nearestEven (x : ℚ) : ℤ :=
  if x - ⌊x⌋ < 1 / 2 then ⌊x⌋
  else if 1 / 2 < x - ⌊x⌋ then ⌊x⌋ + 1
  else ⌊x⌋ + ⌊x⌋ % 2

theorem abs_nearestEven_sub_le (x : ℚ) : |nearestEven x - x| ≤ 1 / 2 := by
  have low := Int.floor_le x
  have high := Int.lt_floor_add_one x
  unfold nearestEven
  rw [abs_le]
  split_ifs with below above
  · constructor <;> linarith
  · push_cast
    constructor <;> linarith
  · have tie : x = ⌊x⌋ + 1 / 2 := by linarith
    rcases Int.emod_two_eq_zero_or_one ⌊x⌋ with even | odd
    · rw [even]
      push_cast
      constructor <;> linarith
    · rw [odd]
      push_cast
      constructor <;> linarith

theorem roundDiv_eq (num : Nat) {den : Nat} (pos : 0 < den) :
    (roundDiv num den : ℤ) = nearestEven (num / den) := by
  have positive : (0 : ℚ) < den := by exact_mod_cast pos
  have whole : ⌊(num / den : ℚ)⌋ = (num / den : Nat) := Rat.floor_natCast_div_natCast num den
  have rest : (num / den : ℚ) - ⌊(num / den : ℚ)⌋ = (num % den : Nat) / den := by
    have split : (den * (num / den : Nat) + (num % den : Nat) : ℚ) = num := by
      exact_mod_cast Nat.div_add_mod num den
    rw [whole, eq_div_iff positive.ne', sub_mul, div_mul_cancel₀ _ positive.ne', Int.cast_natCast]
    linarith
  have below : (num / den : ℚ) - ⌊(num / den : ℚ)⌋ < 1 / 2 ↔ 2 * (num % den) < den := by
    rw [rest, div_lt_iff₀ positive, ← @Nat.cast_lt ℚ]
    push_cast
    constructor <;> intro h <;> linarith
  have above : 1 / 2 < (num / den : ℚ) - ⌊(num / den : ℚ)⌋ ↔ den < 2 * (num % den) := by
    rw [rest, lt_div_iff₀ positive, ← @Nat.cast_lt ℚ]
    push_cast
    constructor <;> intro h <;> linarith
  unfold roundDiv nearestEven
  simp only [below, above]
  rw [whole]
  split_ifs <;> push_cast <;> rfl

theorem nearestEven_intCast (n : ℤ) : nearestEven n = n := by
  simp [nearestEven]

theorem nearestEven_neg (x : ℚ) : nearestEven (-x) = -nearestEven x := by
  by_cases whole : x = ⌊x⌋
  · rw [whole, ← Int.cast_neg, nearestEven_intCast, nearestEven_intCast]
  · have low := lt_of_le_of_ne (Int.floor_le x) (Ne.symm whole)
    have high := Int.lt_floor_add_one x
    have floor : ⌊-x⌋ = -⌊x⌋ - 1 := by
      rw [Int.floor_eq_iff]
      push_cast
      constructor <;> linarith
    have below : -x - (⌊-x⌋ : ℚ) < 1 / 2 ↔ 1 / 2 < x - ⌊x⌋ := by
      rw [floor]
      push_cast
      constructor <;> intro h <;> linarith
    have above : 1 / 2 < -x - (⌊-x⌋ : ℚ) ↔ x - ⌊x⌋ < 1 / 2 := by
      rw [floor]
      push_cast
      constructor <;> intro h <;> linarith
    unfold nearestEven
    simp only [below, above]
    rw [floor]
    split_ifs with up down
    · linarith
    · omega
    · omega
    · omega

/-- An even integer is the nearest one from half a unit below it to half a unit above it. -/
theorem nearestEven_eq {x : ℚ} {n : ℤ} (even : n % 2 = 0) (near : |n - x| ≤ 1 / 2) :
    nearestEven x = n := by
  obtain ⟨low, high⟩ := abs_le.mp near
  rcases lt_or_ge x n with below | above
  · have floor : ⌊x⌋ = n - 1 := by
      rw [Int.floor_eq_iff]
      push_cast
      constructor <;> linarith
    unfold nearestEven
    rw [floor]
    push_cast
    split_ifs with first second
    · linarith
    · omega
    · omega
  · have floor : ⌊x⌋ = n := by
      rw [Int.floor_eq_iff]
      constructor <;> linarith
    unfold nearestEven
    rw [floor]
    split_ifs with first second
    · rfl
    · linarith
    · omega

/-! Powers and quotients -/

theorem scaled_den_pos {base den : Nat} (base_pos : 0 < base) (den_pos : 0 < den) (num : Nat)
    (exponent : ℤ) : 0 < (scaled base num den exponent).2 := by
  unfold scaled
  split
  · exact den_pos
  · exact Nat.mul_pos den_pos (Nat.pow_pos base_pos)

theorem scaled_ratio (base num den : Nat) (exponent : ℤ) :
    ((scaled base num den exponent).1 : ℚ) / (scaled base num den exponent).2
      = num / den * (base : ℚ) ^ exponent := by
  unfold scaled
  split
  · next up =>
    have same : (base : ℚ) ^ exponent = (base : ℚ) ^ exponent.toNat := by
      rw [← zpow_natCast, Int.toNat_of_nonneg up]
    rw [same, Nat.pow_eq, Nat.cast_mul, Nat.cast_pow, mul_div_right_comm]
  · next down =>
    have same : (base : ℚ) ^ exponent = ((base : ℚ) ^ (-exponent).toNat)⁻¹ := by
      rw [← zpow_natCast, Int.toNat_of_nonneg (by omega), zpow_neg, inv_inv]
    rw [same, Nat.pow_eq, Nat.cast_mul, Nat.cast_pow, div_mul_eq_div_div, div_eq_mul_inv]

namespace Binary64

/-! Values -/

/-- The exact value of a finite number. -/
def value : Binary64 → ℚ
  | .finite negative m e => (if negative then -1 else 1) * (m * 2 ^ e)
  | _ => 0

theorem abs_value_finite (negative : Bool) (m : Nat) (e : ℤ) :
    |(finite negative m e).value| = m * 2 ^ e := by
  have size : |(m * 2 ^ e : ℚ)| = m * 2 ^ e :=
    abs_of_nonneg (mul_nonneg m.cast_nonneg (zpow_nonneg (by norm_num) e))
  cases negative <;> simp [value, size]

/-- A finite number is rounded to the integer nearest to its value. -/
theorem round?_finite (negative : Bool) (m : Nat) (e : ℤ) :
    (finite negative m e).round? = some (nearestEven (finite negative m e).value) := by
  have size : (roundDiv (scaled 2 m 1 e).1 (scaled 2 m 1 e).2 : ℤ)
      = nearestEven (m * 2 ^ e) := by
    rw [roundDiv_eq _ (scaled_den_pos (by decide) (by decide) m e), scaled_ratio]
    simp
  cases negative with
  | false => simp [round?, value, size]
  | true => simp [round?, value, size, nearestEven_neg]

/-- A finite number that width 64 has. -/
def IsProper : Binary64 → Prop
  | .finite _ m e => m < mantissaBound ∧ -1074 ≤ e ∧ e ≤ 971
  | _ => False

instance : DecidablePred IsProper := fun x => by
  cases x <;> unfold IsProper <;> infer_instance

/-- From here on numbers are rounded to infinity: `2 ^ 1024 - 2 ^ 970`, which is half a unit above
the greatest finite one. -/
def overflow : ℚ := (2 ^ 54 - 1) * 2 ^ 970

theorem abs_value_le {x : Binary64} (h : x.IsProper) : |x.value| ≤ (2 ^ 54 - 2) * 2 ^ 970 := by
  cases x with
  | finite negative m e =>
    obtain ⟨small, -, high⟩ := h
    have mantissa : (m : ℚ) ≤ 2 ^ 53 - 1 := by
      have below : m + 1 ≤ 2 ^ 53 := small
      have cast : (m + 1 : ℚ) ≤ 2 ^ 53 := by exact_mod_cast below
      linarith
    have power : (2 : ℚ) ^ e ≤ 2 * 2 ^ 970 := by
      rw [← pow_succ', ← zpow_natCast]
      exact zpow_le_zpow_right₀ (by norm_num) high
    have positive : (0 : ℚ) < 2 ^ 970 := by positivity
    rw [abs_value_finite]
    calc (m : ℚ) * 2 ^ e
      _ ≤ (2 ^ 53 - 1) * (2 * 2 ^ 970) :=
        mul_le_mul mantissa power (zpow_nonneg (by norm_num) e) (by norm_num)
      _ = (2 ^ 54 - 2) * 2 ^ 970 := by rw [← mul_assoc]; norm_num
  | infinite | nan => exact h.elim

/-! Rounding to width 64 -/

/-- A quotient lies between the powers of two that the sizes of its parts tell. -/
theorem log2_bounds {num den : Nat} (num_pos : 0 < num) (den_pos : 0 < den) :
    (2 : ℚ) ^ ((num.log2 : ℤ) - den.log2 - 1) ≤ num / den
      ∧ (num / den : ℚ) < 2 ^ ((num.log2 : ℤ) - den.log2 + 1) := by
  have positive : (0 : ℚ) < den := by exact_mod_cast den_pos
  have power (n : Nat) : ((2 ^ n : Nat) : ℚ) = 2 ^ (n : ℤ) := by push_cast; rw [zpow_natCast]
  have num_low : (2 : ℚ) ^ (num.log2 : ℤ) ≤ num := by
    rw [← power]
    exact_mod_cast Nat.log2_self_le num_pos.ne'
  have num_high : (num : ℚ) < 2 ^ ((num.log2 : ℤ) + 1) := by
    rw [← Nat.cast_succ, ← power]
    exact_mod_cast Nat.lt_log2_self
  have den_low : (2 : ℚ) ^ (den.log2 : ℤ) ≤ den := by
    rw [← power]
    exact_mod_cast Nat.log2_self_le den_pos.ne'
  have den_high : (den : ℚ) < 2 ^ ((den.log2 : ℤ) + 1) := by
    rw [← Nat.cast_succ, ← power]
    exact_mod_cast Nat.lt_log2_self
  have two : (2 : ℚ) ≠ 0 := two_ne_zero
  constructor
  · rw [le_div_iff₀ positive]
    calc (2 : ℚ) ^ ((num.log2 : ℤ) - den.log2 - 1) * den
      _ ≤ 2 ^ ((num.log2 : ℤ) - den.log2 - 1) * 2 ^ ((den.log2 : ℤ) + 1) := by gcongr
      _ = 2 ^ (num.log2 : ℤ) := by rw [← zpow_add₀ two]; congr 1; ring
      _ ≤ num := num_low
  · rw [div_lt_iff₀ positive]
    calc (num : ℚ)
      _ < 2 ^ ((num.log2 : ℤ) + 1) := num_high
      _ = 2 ^ ((num.log2 : ℤ) - den.log2 + 1) * 2 ^ (den.log2 : ℤ) := by
        rw [← zpow_add₀ two]; congr 1; ring
      _ ≤ 2 ^ ((num.log2 : ℤ) - den.log2 + 1) * den := by gcongr

/-- The exponent leaves a mantissa of at most 53 bits, and of all of them unless it is the least. -/
theorem exponentFor_spec {num den : Nat} (num_pos : 0 < num) (den_pos : 0 < den) :
    -1074 ≤ exponentFor num den
      ∧ (num / den : ℚ) < 2 ^ 53 * 2 ^ exponentFor num den
      ∧ (exponentFor num den = -1074 ∨ 2 ^ 52 * 2 ^ exponentFor num den ≤ (num / den : ℚ)) := by
  obtain ⟨low, high⟩ := log2_bounds num_pos den_pos
  have two : (2 : ℚ) ≠ 0 := two_ne_zero
  let guess : ℤ := (num.log2 : ℤ) - den.log2 - 52
  let own : ℤ := if (scaled 2 num den (-guess)).1 < fullMantissa * (scaled 2 num den (-guess)).2
    then guess - 1 else guess
  -- the exponent that the size asks for, before the least one is taken into account
  have fitting : (num / den : ℚ) < 2 ^ 53 * 2 ^ own ∧ 2 ^ 52 * 2 ^ own ≤ (num / den : ℚ) := by
    have positive : (0 : ℚ) < (scaled 2 num den (-guess)).2 := by
      exact_mod_cast scaled_den_pos (by decide) den_pos num (-guess)
    have test : (scaled 2 num den (-guess)).1 < fullMantissa * (scaled 2 num den (-guess)).2
        ↔ (num / den : ℚ) < 2 ^ 52 * 2 ^ guess := by
      have full : ((fullMantissa : Nat) : ℚ) = 2 ^ 52 := by norm_num [fullMantissa]
      rw [← @Nat.cast_lt ℚ, Nat.cast_mul, full, ← div_lt_iff₀ positive, scaled_ratio,
        Nat.cast_ofNat, zpow_neg, ← div_eq_mul_inv, div_lt_iff₀ (by positivity)]
    by_cases short : (num / den : ℚ) < 2 ^ 52 * 2 ^ guess
    · have one_less : own = guess - 1 := if_pos (test.mpr short)
      have step : (2 : ℚ) ^ guess = 2 * 2 ^ (guess - 1) := by
        rw [← zpow_one_add₀ two]; congr 1; ring
      have least : (2 : ℚ) ^ ((num.log2 : ℤ) - den.log2 - 1) = 2 ^ 52 * 2 ^ (guess - 1) := by
        rw [← zpow_natCast, ← zpow_add₀ two]; congr 1; ring
      rw [step] at short
      rw [least] at low
      rw [one_less]
      constructor <;> linarith
    · have same : own = guess := if_neg (mt test.mp short)
      have greatest : (2 : ℚ) ^ ((num.log2 : ℤ) - den.log2 + 1) = 2 ^ 53 * 2 ^ guess := by
        rw [← zpow_natCast, ← zpow_add₀ two]; congr 1; ring
      rw [greatest] at high
      rw [same]
      exact ⟨high, not_lt.mp short⟩
  have whole : exponentFor num den = max own (-1074) := rfl
  rw [whole]
  rcases le_total (-1074) own with above | below
  · rw [max_eq_left above]
    exact ⟨above, fitting.1, .inr fitting.2⟩
  · rw [max_eq_right below]
    refine ⟨le_rfl, fitting.1.trans_le ?_, .inl rfl⟩
    gcongr
    norm_num

/-- A mantissa is carried to the next power of two from half a unit below it. -/
theorem nearestEven_lt_or_eq {q : ℚ} (below : q < 2 ^ 53) :
    (q < 2 ^ 53 - 1 / 2 ∧ nearestEven q < 2 ^ 53)
      ∨ (2 ^ 53 - 1 / 2 ≤ q ∧ nearestEven q = 2 ^ 53) := by
  rcases lt_or_ge q (2 ^ 53 - 1 / 2) with less | more
  · left
    obtain ⟨-, most⟩ := abs_le.mp (abs_nearestEven_sub_le q)
    have fits : (nearestEven q : ℚ) < (2 ^ 53 : ℤ) := by
      push_cast
      linarith
    exact ⟨less, by exact_mod_cast fits⟩
  · right
    refine ⟨more, nearestEven_eq (by norm_num) ?_⟩
    push_cast
    rw [abs_le]
    constructor <;> linarith

theorem power_le {e f : ℤ} (h : e ≤ f) : (2 : ℚ) ^ e ≤ 2 ^ f :=
  zpow_le_zpow_right₀ one_le_two h

theorem overflow_eq : overflow = (2 ^ 53 - 1 / 2) * 2 ^ (971 : ℤ) := by
  have step : (2 : ℚ) ^ (971 : ℤ) = 2 * 2 ^ 970 := by rw [← pow_succ', ← zpow_natCast]; rfl
  rw [overflow, step, ← mul_assoc]
  norm_num

/-- With all 53 bits, the least number whose exponent is too large is out of range. -/
theorem overflow_le_of_large {x : ℚ} {e : ℤ} (large : 971 < e) (full : 2 ^ 52 * 2 ^ e ≤ x) :
    overflow ≤ x := by
  have step : (2 : ℚ) ^ (972 : ℤ) = 2 * 2 ^ (971 : ℤ) := by
    rw [← zpow_one_add₀ two_ne_zero]
    rfl
  have power : 2 * 2 ^ (971 : ℤ) ≤ (2 : ℚ) ^ e := step ▸ power_le (by omega)
  have positive : (0 : ℚ) < 2 ^ (971 : ℤ) := zpow_pos two_pos _
  rw [overflow_eq]
  clear step
  generalize (2 : ℚ) ^ (971 : ℤ) = unit at *
  generalize (2 : ℚ) ^ e = own at *
  linarith

/-- A mantissa that is not carried stays below the overflow with the greatest exponent. -/
theorem lt_overflow_of_fits {q : ℚ} {e : ℤ} (less : q < 2 ^ 53 - 1 / 2) (within : e ≤ 971) :
    q * 2 ^ e < overflow := by
  have unit : (0 : ℚ) < 2 ^ e := zpow_pos two_pos e
  calc q * 2 ^ e
    _ < (2 ^ 53 - 1 / 2) * 2 ^ e := by gcongr
    _ ≤ (2 ^ 53 - 1 / 2) * 2 ^ (971 : ℤ) :=
      mul_le_mul_of_nonneg_left (power_le within) (by norm_num)
    _ = overflow := overflow_eq.symm

/-- A mantissa is carried out of the range from the greatest exponent on. -/
theorem overflow_le_of_carried {q : ℚ} {e : ℤ} (more : 2 ^ 53 - 1 / 2 ≤ q) (large : 971 ≤ e) :
    overflow ≤ q * 2 ^ e := by
  have unit : (0 : ℚ) < 2 ^ e := zpow_pos two_pos e
  calc overflow
    _ = (2 ^ 53 - 1 / 2) * 2 ^ (971 : ℤ) := overflow_eq
    _ ≤ (2 ^ 53 - 1 / 2) * 2 ^ e :=
      mul_le_mul_of_nonneg_left (power_le large) (by norm_num)
    _ ≤ q * 2 ^ e := by gcongr

theorem lt_overflow_of_small {x : ℚ} {e : ℤ} (high : x < 2 ^ 53 * 2 ^ e) (small : e ≤ 970) :
    x < overflow := by
  have step : (2 : ℚ) ^ (971 : ℤ) = 2 * 2 ^ (970 : ℤ) := by
    rw [← zpow_one_add₀ two_ne_zero]
    rfl
  have positive : (0 : ℚ) < 2 ^ (970 : ℤ) := zpow_pos two_pos _
  have inside : x < 2 ^ 53 * 2 ^ (970 : ℤ) :=
    high.trans_le (mul_le_mul_of_nonneg_left (power_le small) (by norm_num))
  rw [overflow_eq, step]
  clear step
  generalize (2 : ℚ) ^ (970 : ℤ) = unit at *
  linarith

/-- Rounding a mantissa adds at most half a unit, which is little unless it is less than one. -/
theorem mantissa_mul_le {m : Nat} {q x : ℚ} {e : ℤ} (nearest : (m : ℤ) = nearestEven q)
    (size : q * 2 ^ e = x) (nonneg : 0 ≤ x) (low : e = -1074 ∨ 2 ^ 52 * 2 ^ e ≤ x) :
    m * 2 ^ e ≤ 2 * x + 1 := by
  have near : (m : ℚ) ≤ q + 1 / 2 := by
    have close := abs_le.mp (abs_nearestEven_sub_le q)
    rw [← nearest, Int.cast_natCast] at close
    linarith [close.2]
  have fine : (2 : ℚ) ^ e ≤ x + 1 := by
    rcases low with lowest | full
    · have small : (2 : ℚ) ^ e ≤ 2 ^ (0 : ℤ) := power_le (lowest.trans_le (by decide))
      rw [zpow_zero] at small
      linarith
    · linarith
  calc (m : ℚ) * 2 ^ e
    _ ≤ (q + 1 / 2) * 2 ^ e := by gcongr
    _ = x + 2 ^ e / 2 := by rw [← size]; ring
    _ ≤ 2 * x + 1 := by linarith

/-- What a quotient is rounded to: its exponent is too large just if the quotient is out of range.
-/
theorem exists_rounded {num den : Nat} (num_pos : 0 < num) (den_pos : 0 < den) :
    ∃ (m : Nat) (e : ℤ), m < mantissaBound ∧ -1074 ≤ e ∧ (m * 2 ^ e : ℚ) ≤ 2 * (num / den) + 1
      ∧ (971 < e ↔ overflow ≤ num / den)
      ∧ ∀ negative, ofRatio negative num den
        = if 971 < e then .infinite negative else .finite negative m e := by
  obtain ⟨least, high, low⟩ := exponentFor_spec num_pos den_pos
  let e := exponentFor num den
  let q : ℚ := num / den * 2 ^ (-e)
  let mantissa := roundDiv (scaled 2 num den (-e)).1 (scaled 2 num den (-e)).2
  have unit : (0 : ℚ) < 2 ^ e := zpow_pos two_pos e
  have size : q * 2 ^ e = num / den := by
    rw [mul_assoc, zpow_neg, inv_mul_cancel₀ unit.ne', mul_one]
  have below : q < 2 ^ 53 := by
    rw [← size] at high
    exact lt_of_mul_lt_mul_right high unit.le
  have nearest : (mantissa : ℤ) = nearestEven q := by
    rw [roundDiv_eq _ (scaled_den_pos (by decide) den_pos num (-e)), scaled_ratio]
    rfl
  have most : (mantissa : ℚ) * 2 ^ e ≤ 2 * (num / den) + 1 :=
    mantissa_mul_le nearest size (by positivity) low
  have given (negative : Bool) : ofRatio negative num den
      = if 971 < (if mantissa = mantissaBound then (fullMantissa, e + 1) else (mantissa, e)).2
        then .infinite negative
        else .finite negative
          (if mantissa = mantissaBound then (fullMantissa, e + 1) else (mantissa, e)).1
          (if mantissa = mantissaBound then (fullMantissa, e + 1) else (mantissa, e)).2 := by
    rw [ofRatio, if_neg num_pos.ne']
  rcases nearestEven_lt_or_eq below with ⟨less, fits⟩ | ⟨more, full⟩
  · have small : mantissa < mantissaBound := by
      rw [← nearest] at fits
      exact_mod_cast fits
    simp only [if_neg small.ne] at given
    refine ⟨mantissa, e, small, least, most, ⟨fun large => ?_, fun beyond => ?_⟩, given⟩
    · exact overflow_le_of_large large (low.resolve_left (by omega))
    · by_contra within
      have inside := lt_overflow_of_fits less (not_lt.mp within)
      rw [size] at inside
      exact absurd beyond (not_le.mpr inside)
  · have carried : mantissa = mantissaBound := by
      rw [← nearest] at full
      exact_mod_cast full
    have same : (fullMantissa : ℚ) * 2 ^ (e + 1) = mantissa * 2 ^ e := by
      rw [carried, zpow_add_one₀ two_ne_zero]
      norm_num [fullMantissa, mantissaBound]
      ring
    simp only [if_pos carried] at given
    refine ⟨fullMantissa, e + 1, by decide, by omega, same ▸ most,
      ⟨fun large => ?_, fun beyond => ?_⟩, given⟩
    · rw [← size]
      exact overflow_le_of_carried more (by omega)
    · by_contra within
      exact absurd beyond (not_le.mpr (lt_overflow_of_small high (show e ≤ 970 by omega)))

/-- What is left of an exact result: a finite number, not much greater, if it is within the range,
and otherwise infinity. -/
structure Rounds (r : Binary64) (x : ℚ) : Prop where
  proper : |x| < overflow → r.IsProper
  infinite : overflow ≤ |x| → ∃ negative, r = .infinite negative
  bound : |r.value| ≤ 2 * |x| + 1

theorem overflow_pos : 0 < overflow := mul_pos (by norm_num) (by positivity)

theorem rounds_zeroOf (negative : Bool) {x : ℚ} (zero : x = 0) : Rounds (zeroOf negative) x where
  proper _ := ⟨by decide, by decide, by decide⟩
  infinite beyond := by
    rw [zero, abs_zero] at beyond
    exact absurd beyond (not_le.mpr overflow_pos)
  bound := by
    rw [zeroOf, abs_value_finite]
    simp [zero]

theorem rounds_ofRatio (negative : Bool) (num : Nat) {den : Nat} (den_pos : 0 < den) {x : ℚ}
    (size : |x| = num / den) : Rounds (ofRatio negative num den) x := by
  rcases Nat.eq_zero_or_pos num with rfl | num_pos
  · have zero : x = 0 := by simpa using size
    rw [ofRatio, if_pos rfl]
    exact rounds_zeroOf negative zero
  · obtain ⟨m, e, small, least, most, beyond, given⟩ := exists_rounded num_pos den_pos
    rw [given]
    split
    · next large =>
      have out : overflow ≤ |x| := size ▸ beyond.mp large
      refine ⟨fun within => absurd within (not_lt.mpr out), fun _ => ⟨negative, rfl⟩, ?_⟩
      have nothing : (infinite negative).value = 0 := rfl
      rw [nothing, abs_zero]
      positivity
    · next fits =>
      have within : |x| < overflow := size ▸ not_le.mp (mt beyond.mpr fits)
      refine ⟨fun _ => ⟨small, least, not_lt.mp fits⟩,
        fun out => absurd within (not_lt.mpr out), ?_⟩
      rw [abs_value_finite, size]
      exact most

/-! Operations -/

theorem rounds_ofDyadic (negative : Bool) (units : Nat) (exponent : ℤ) {x : ℚ}
    (size : |x| = units * 2 ^ exponent) : Rounds (ofDyadic negative units exponent) x := by
  refine rounds_ofRatio negative (scaled 2 units 1 exponent).1
    (scaled_den_pos (by decide) (by decide) units exponent) ?_
  rw [size, scaled_ratio, Nat.cast_one, div_one, Nat.cast_ofNat]

theorem rounds_ofInt (n : ℤ) : Rounds (ofInt n) n := by
  refine rounds_ofRatio _ n.natAbs one_pos ?_
  rw [Nat.cast_natAbs, Int.cast_abs, Nat.cast_one, div_one]

theorem unitsAt_eq {common own : ℤ} (le : common ≤ own) (negative : Bool) (m : Nat) :
    (unitsAt common negative m own : ℚ) * 2 ^ common = (finite negative m own).value := by
  have power : (2 : ℚ) ^ (own - common).toNat * 2 ^ common = 2 ^ own := by
    rw [← zpow_natCast, Int.toNat_of_nonneg (by omega), ← zpow_add₀ two_ne_zero]
    congr 1
    ring
  cases negative <;> simp [unitsAt, value, mul_assoc, power]

theorem rounds_add {x y : Binary64} (hx : x.IsProper) (hy : y.IsProper) :
    Rounds (x + y) (x.value + y.value) := by
  cases x with
  | infinite | nan => exact hx.elim
  | finite s m e =>
    cases y with
    | infinite | nan => exact hy.elim
    | finite t n f =>
      let common := min e f
      let sum := unitsAt common s m e + unitsAt common t n f
      have total : (sum : ℚ) * 2 ^ common = (finite s m e).value + (finite t n f).value := by
        rw [← unitsAt_eq (min_le_left e f), ← unitsAt_eq (min_le_right e f), ← add_mul,
          ← Int.cast_add]
      have given : finite s m e + finite t n f
          = if sum = 0 then zeroOf (s && t) else ofDyadic (sum < 0) sum.natAbs common := rfl
      rw [given]
      split
      · next none =>
        apply rounds_zeroOf
        rw [← total, none, Int.cast_zero, zero_mul]
      · have unit : (0 : ℚ) < 2 ^ common := zpow_pos two_pos common
        apply rounds_ofDyadic
        rw [← total, abs_mul, Nat.cast_natAbs, Int.cast_abs, abs_of_pos unit]

theorem value_neg (x : Binary64) : (neg x).value = -x.value := by
  cases x with
  | finite s m e => cases s <;> simp [neg, value]
  | infinite | nan => simp [neg, value]

theorem isProper_neg {x : Binary64} (h : x.IsProper) : (neg x).IsProper := by
  cases x with
  | finite s m e => exact h
  | infinite | nan => exact h.elim

theorem rounds_sub {x y : Binary64} (hx : x.IsProper) (hy : y.IsProper) :
    Rounds (x - y) (x.value - y.value) := by
  rw [sub_eq_add_neg, ← value_neg]
  exact rounds_add hx (isProper_neg hy)

theorem rounds_mul {x y : Binary64} (hx : x.IsProper) (hy : y.IsProper) :
    Rounds (x * y) (x.value * y.value) := by
  cases x with
  | infinite | nan => exact hx.elim
  | finite s m e =>
    cases y with
    | infinite | nan => exact hy.elim
    | finite t n f =>
      refine rounds_ofDyadic (s ^^ t) (m * n) (e + f) ?_
      rw [abs_mul, abs_value_finite, abs_value_finite, Nat.cast_mul, zpow_add₀ two_ne_zero]
      ring

theorem rounds_divNat {x : Binary64} (hx : x.IsProper) {n : Nat} (pos : 0 < n) :
    Rounds (x.divNat n) (x.value / n) := by
  cases x with
  | infinite | nan => exact hx.elim
  | finite s m e =>
    refine rounds_ofRatio s (scaled 2 m n e).1 (scaled_den_pos (by decide) pos m e) ?_
    rw [scaled_ratio, abs_div, abs_value_finite, Nat.abs_cast, Nat.cast_ofNat, div_mul_eq_mul_div]

end Binary64

/-! Whole and binary numbers -/

namespace Number

def value : Number → ℚ
  | .whole n => n
  | .binary x => x.value

/-- Any whole number, and the finite ones among the binary numbers. -/
def IsFinite : Number → Prop
  | .whole _ => True
  | .binary x => x.IsProper

instance : DecidablePred IsFinite := fun n => by
  cases n <;> unfold IsFinite <;> infer_instance

theorem round_of_isFinite {n : Number} (h : n.IsFinite) : n.round = .ok (nearestEven n.value) := by
  cases n with
  | whole n => rw [value, nearestEven_intCast, round]
  | binary x =>
    cases x with
    | infinite | nan => exact h.elim
    | finite negative m e =>
      exact congrArg (fun n => Except.ok (Option.getD n 0)) (Binary64.round?_finite negative m e)

end Number

end Vitae.Decimal
