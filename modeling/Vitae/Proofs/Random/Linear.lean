import Mathlib.Algebra.Field.ZMod
import Mathlib.LinearAlgebra.Dimension.Constructions
import Mathlib.LinearAlgebra.Eigenspace.Charpoly
import Vitae.Proofs.Random.Stream

/-!
The stream of a twister is linear over the field of two elements, and the step from one block of
bits to the next leaves none but the empty block as it is. So the first bits of the words that are
drawn cannot all be set, however the twister began: by the theorem of Cayley and Hamilton one of any
`size * 32 + 1` in a row is clear.
-/

namespace Vitae.Twister

/-! Bits -/

/-- A bit of a word, to calculate with. -/
def bit (w : UInt32) (i : Nat) : ZMod 2 := if w.toNat.testBit i then 1 else 0

theorem bit_xor (v w : UInt32) (i : Nat) : bit (v ^^^ w) i = bit v i + bit w i := by
  simp only [bit, UInt32.toNat_xor, Nat.testBit_xor]
  cases v.toNat.testBit i <;> cases w.toNat.testBit i <;> decide

theorem bit_of_le (w : UInt32) {i : Nat} (beyond : 32 ≤ i) : bit w i = 0 := by
  have small : w.toNat < 2 ^ i :=
    Nat.lt_of_lt_of_le w.toNat_lt (Nat.pow_le_pow_right (by decide) beyond)
  rw [bit, Nat.testBit_lt_two_pow small, if_neg Bool.false_ne_true]

theorem bit_shiftRight (w : UInt32) {k : UInt32} (short : k.toNat < 32) (i : Nat) :
    bit (w >>> k) i = bit w (k.toNat + i) := by
  rw [bit, UInt32.toNat_shiftRight, Nat.mod_eq_of_lt short, Nat.testBit_shiftRight]
  rfl

theorem bit_shiftLeft (w : UInt32) {k : UInt32} {i : Nat} (short : k.toNat ≤ i) (inside : i < 32) :
    bit (w <<< k) i = bit w (i - k.toNat) := by
  have same : k.toNat % 32 = k.toNat := Nat.mod_eq_of_lt (by omega)
  rw [bit, UInt32.toNat_shiftLeft, same, Nat.testBit_mod_two_pow, Nat.testBit_shiftLeft]
  simp [inside, short, bit]

theorem bit_and (w mask : UInt32) (i : Nat) : bit (w &&& mask) i = bit mask i * bit w i := by
  simp only [bit, UInt32.toNat_and, Nat.testBit_and]
  cases w.toNat.testBit i <;> cases mask.toNat.testBit i <;> decide

theorem bit_eq_one_of_ne {w : UInt32} {i : Nat} (set : bit w i ≠ 0) : bit w i = 1 := by
  unfold bit at set ⊢
  split
  · rfl
  · next clear => exact absurd (if_neg clear) set

/-- One step of tempering to the left. -/
theorem bit_xor_shiftLeft (w mask : UInt32) {k : UInt32} {i : Nat} (short : k.toNat ≤ i)
    (inside : i < 32) :
    bit (w ^^^ ((w <<< k) &&& mask)) i = bit w i + bit mask i * bit w (i - k.toNat) := by
  rw [bit_xor, bit_and, bit_shiftLeft w short inside]

/-- One step of tempering to the right. -/
theorem bit_xor_shiftRight (w : UInt32) {k : UInt32} (short : k.toNat < 32) (i : Nat) :
    bit (w ^^^ (w >>> k)) i = bit w i + bit w (k.toNat + i) := by
  rw [bit_xor, bit_shiftRight w short]

/-- The first bit of a word that is drawn. -/
theorem bit_temper (w : UInt32) :
    bit (temper w) 31 = bit w 31 + bit w 24 + bit w 16 + bit w 27 := by
  have right (v : UInt32) : bit (v ^^^ (v >>> 18)) 31 = bit v 31 := by
    have none : bit v ((18 : UInt32).toNat + 31) = 0 := bit_of_le v (by decide)
    rw [bit_xor_shiftRight v (by decide), none, add_zero]
  have left (v : UInt32) :
      bit (v ^^^ ((v <<< 15) &&& 0xefc60000)) 31 = bit v 31 + bit v 16 := by
    have set : bit 0xefc60000 31 = 1 := by decide
    rw [bit_xor_shiftLeft v _ (by decide) (by decide), set, one_mul]
    rfl
  have middle (v : UInt32) : bit (v ^^^ ((v <<< 7) &&& 0x9d2c5680)) 31 = bit v 31 + bit v 24
      ∧ bit (v ^^^ ((v <<< 7) &&& 0x9d2c5680)) 16 = bit v 16 := by
    have set : bit 0x9d2c5680 31 = 1 := by decide
    have clear : bit 0x9d2c5680 16 = 0 := by decide
    rw [bit_xor_shiftLeft v _ (by decide) (by decide), set, one_mul,
      bit_xor_shiftLeft v _ (by decide) (by decide), clear, zero_mul, add_zero]
    exact ⟨rfl, rfl⟩
  have first (i : Nat) : bit (w ^^^ (w >>> 11)) i = bit w i + bit w (11 + i) :=
    bit_xor_shiftRight w (by decide) i
  rw [temper, right, left, (middle _).1, (middle _).2, first, first, first,
    bit_of_le w (by decide : 32 ≤ 11 + 31), bit_of_le w (by decide : 32 ≤ 11 + 24), add_zero,
    add_zero, ← add_assoc]

/-- What a word that is renewed and the one behind it are joined to. -/
def joined (own following : UInt32) : UInt32 := (own &&& 0x80000000) ||| (following &&& 0x7fffffff)

theorem bit_joined (own following : UInt32) {i : Nat} (inside : i < 32) :
    bit (joined own following) i = if i = 31 then bit own 31 else bit following i := by
  have masks : ∀ i < 32, (0x80000000 : UInt32).toNat.testBit i = decide (i = 31)
      ∧ (0x7fffffff : UInt32).toNat.testBit i = decide (i ≠ 31) := by decide
  obtain ⟨high, low⟩ := masks i inside
  rw [joined, bit, UInt32.toNat_or, UInt32.toNat_and, UInt32.toNat_and, Nat.testBit_or,
    Nat.testBit_and, Nat.testBit_and, high, low]
  by_cases top : i = 31
  · simp [top, bit]
  · simp [top, bit]

theorem bit_joined_shiftRight (own following : UInt32) {i : Nat} (inside : i < 32) :
    bit (joined own following >>> 1) i
      = if i = 31 then 0 else if i = 30 then bit own 31 else bit following (i + 1) := by
  have move : (1 : UInt32).toNat + i = i + 1 := Nat.add_comm 1 i
  rw [bit_shiftRight _ (by decide), move]
  by_cases top : i = 31
  · rw [if_pos top, top, bit_of_le _ (by decide)]
  · rw [if_neg top, bit_joined _ _ (by omega)]
    simp

/-- A constant that comes in with an odd word. -/
theorem bit_if_odd (w constant : UInt32) (i : Nat) :
    bit (if w &&& 1 = 1 then constant else 0) i = bit w 0 * bit constant i := by
  have last : w &&& 1 = 1 ↔ w.toNat.testBit 0 = true := by
    rw [← UInt32.toNat_inj, UInt32.toNat_and, Nat.testBit_zero, decide_eq_true_eq]
    exact iff_of_eq (congrArg (· = 1) (Nat.and_one_is_mod _))
  by_cases odd : w &&& 1 = 1
  · have set : bit w 0 = 1 := if_pos (last.mp odd)
    rw [if_pos odd, set, one_mul]
  · have clear : bit w 0 = 0 := if_neg (mt last.mpr odd)
    have none : bit 0 i = 0 := by simp [bit]
    rw [if_neg odd, none, clear, zero_mul]

/-- A bit of a word that follows by the rule: the last bit of `following` decides whether a constant
comes in. -/
theorem bit_twist (own following far : UInt32) {i : Nat} (inside : i < 32) :
    bit (twist own following far) i = bit far i
      + (if i = 31 then 0 else if i = 30 then bit own 31 else bit following (i + 1))
      + bit following 0 * bit 0x9908b0df i := by
  have twisted : twist own following far = far ^^^ (joined own following >>> 1)
      ^^^ (if joined own following &&& 1 = 1 then 0x9908b0df else 0) := rfl
  have last : bit (joined own following) 0 = bit following 0 := by
    rw [bit_joined _ _ (by decide), if_neg (by decide)]
  rw [twisted, bit_xor, bit_xor, bit_joined_shiftRight _ _ inside, bit_if_odd, last]

/-! Blocks of bits -/

/-- The bits of `size` words in a row. -/
abbrev Block : Type := Fin size × Fin 32 → ZMod 2

/-- The bits of a stream from a place on. -/
def block (x : Nat → UInt32) (n : Nat) : Block := fun place => bit (x (n + place.1)) place.2

/-- A word of a block, from its beginning. -/
def wordAt (n : Nat) (inside : n < size) (i : Fin 32) : Block →ₗ[ZMod 2] ZMod 2 :=
  LinearMap.proj (⟨n, inside⟩, i)

theorem wordAt_block (x : Nat → UInt32) (n : Nat) {k : Nat} (inside : k < size) (i : Fin 32) :
    wordAt k inside i (block x n) = bit (x (n + k)) i := rfl

/-- The bits that the first two words of a block are joined to. -/
def joinedAt (i : Fin 32) : Block →ₗ[ZMod 2] ZMod 2 :=
  if i = 31 then 0
  else if i = 30 then wordAt 0 (by decide) 31
  else wordAt 1 (by decide) (i + 1)

/-- The block that begins one word later. -/
def advance : Block →ₗ[ZMod 2] Block :=
  LinearMap.pi fun place =>
    if later : place.1 + 1 < size then wordAt (place.1 + 1) later place.2
    else wordAt 397 (by decide) place.2 + joinedAt place.2
      + bit 0x9908b0df place.2 • wordAt 1 (by decide) 0

/-- The first bit that is drawn from a block. -/
def firstBit : Block →ₗ[ZMod 2] ZMod 2 :=
  wordAt 0 (by decide) 31 + wordAt 0 (by decide) 24 + wordAt 0 (by decide) 16
    + wordAt 0 (by decide) 27

/-- A stream of words that follow one another by the rule. -/
def IsStream (x : Nat → UInt32) : Prop := ∀ n, x (n + size) = twist (x n) (x (n + 1)) (x (n + 397))

variable {x : Nat → UInt32}

theorem firstBit_block (x : Nat → UInt32) (n : Nat) :
    firstBit (block x n) = bit (temper (x n)) 31 := by
  rw [bit_temper]
  rfl

theorem joinedAt_block (x : Nat → UInt32) (n : Nat) (i : Fin 32) :
    joinedAt i (block x n) = if i.val = 31 then 0 else if i.val = 30 then bit (x n) 31
      else bit (x (n + 1)) (i + 1) := by
  have value (k : Fin 32) : i = k ↔ i.val = k.val := Fin.ext_iff
  unfold joinedAt
  by_cases top : i.val = 31
  · rw [if_pos ((value 31).mpr top), if_pos top]
    rfl
  · rw [if_neg (mt (value 31).mp top), if_neg top]
    by_cases high : i.val = 30
    · rw [if_pos ((value 30).mpr high), if_pos high]
      rfl
    · have following : (i + 1 : Fin 32).val = i.val + 1 :=
        Fin.val_add_one_of_lt (Fin.lt_def.mpr (show i.val < 31 by omega))
      rw [if_neg (mt (value 30).mp high), if_neg high, wordAt_block, following]

theorem advance_apply (v : Block) (k : Fin size) (i : Fin 32) :
    advance v (k, i) = if later : k.val + 1 < size then v (⟨k + 1, later⟩, i)
      else wordAt 397 (by decide) i v + joinedAt i v
        + bit 0x9908b0df i * wordAt 1 (by decide) 0 v := by
  rw [advance, LinearMap.pi_apply]
  split <;> rfl

theorem advance_block (h : IsStream x) (n : Nat) : advance (block x n) = block x (n + 1) := by
  funext ⟨k, i⟩
  rw [advance_apply]
  by_cases later : k.val + 1 < size
  · rw [dif_pos later, block, block, Nat.add_right_comm n 1 k]
    rfl
  · have last : n + 1 + k.val = n + size := by omega
    rw [dif_neg later, joinedAt_block, wordAt_block, wordAt_block, block, last, h n,
      bit_twist _ _ _ i.isLt, mul_comm]
    rfl

theorem advance_pow_block (h : IsStream x) (n j : Nat) :
    (advance ^ j) (block x n) = block x (n + j) := by
  induction j with
  | zero => rfl
  | succ j ih => rw [pow_succ', Module.End.mul_apply, ih, advance_block h, Nat.add_assoc]

/-! Blocks that are left as they are -/

section Fixed

variable {v : Block}

theorem word_of_advance_eq (same : advance v = v) {k : Nat} (inside : k < size) (i : Fin 32) :
    v (⟨k, inside⟩, i) = v (⟨0, by decide⟩, i) := by
  induction k with
  | zero => rfl
  | succ k ih =>
    have step := congrFun same (⟨k, by omega⟩, i)
    rw [advance_apply, dif_pos inside] at step
    exact step.trans (ih (by omega))

/-- What the rule says of the last word if all words are the same. -/
theorem rule_of_advance_eq (same : advance v = v) (i : Fin 32) :
    joinedAt i v + bit 0x9908b0df i * wordAt 1 (by decide) 0 v = 0 := by
  have step := congrFun same (⟨623, by decide⟩, i)
  have far : wordAt 397 (by decide) i v = v (⟨623, by decide⟩, i) :=
    (word_of_advance_eq same _ i).trans (word_of_advance_eq same _ i).symm
  rw [advance_apply, dif_neg (by decide), far, add_assoc] at step
  exact add_eq_left.mp step

/-- Nothing is shifted into the first bit, so the constant does not come in. -/
theorem last_of_advance_eq (same : advance v = v) : wordAt 1 (by decide) 0 v = 0 := by
  have top := rule_of_advance_eq same 31
  have set : bit 0x9908b0df (31 : Fin 32) = 1 := by decide
  rwa [joinedAt, if_pos rfl, LinearMap.zero_apply, zero_add, set, one_mul] at top

theorem joinedAt_of_advance_eq (same : advance v = v) (i : Fin 32) : joinedAt i v = 0 := by
  have rule := rule_of_advance_eq same i
  rwa [last_of_advance_eq same, mul_zero, add_zero] at rule

/-- Only the empty block is left as it is: the last bit of its words is clear, and so is every bit
that is joined. -/
theorem eq_zero_of_advance_eq (same : advance v = v) : v = 0 := by
  have clear (i : Fin 32) : v (⟨0, by decide⟩, i) = 0 := by
    by_cases low : i = 0
    · rw [low, ← word_of_advance_eq same (by decide : 1 < size)]
      exact last_of_advance_eq same
    · obtain ⟨j, rfl⟩ : ∃ j : Fin 31, i = j.succ := ⟨i.pred low, (Fin.succ_pred i low).symm⟩
      have joint := joinedAt_of_advance_eq same j.castSucc
      have under : j.castSucc ≠ 31 := Fin.ne_of_lt (Fin.castSucc_lt_last j)
      rw [joinedAt, if_neg under] at joint
      by_cases high : j.castSucc = 30
      · rw [if_pos high] at joint
        obtain rfl : j = 30 := Fin.castSucc_injective _ high
        exact joint
      · rw [if_neg high, Fin.coeSucc_eq_succ] at joint
        exact (word_of_advance_eq same (by decide : 1 < size) _).symm.trans joint
  funext ⟨k, i⟩
  exact (word_of_advance_eq same k.isLt i).trans (clear i)

end Fixed

/-! Steps in a row -/

/-- A combination of the steps vanishes, and its coefficients have a sum. They are those of the
characteristic polynomial, of which 1 is no root because no block but the empty one is left as it
is. -/
theorem exists_combination : ∃ c : Nat → ZMod 2, ∑ j ∈ Finset.range (size * 32 + 1), c j ≠ 0
    ∧ ∀ v, ∑ j ∈ Finset.range (size * 32 + 1), c j • (advance ^ j) v = 0 := by
  have degree : advance.charpoly.natDegree = size * 32 := by
    rw [LinearMap.charpoly_natDegree, Module.finrank_fintype_fun_eq_card, Fintype.card_prod,
      Fintype.card_fin, Fintype.card_fin]
  refine ⟨advance.charpoly.coeff, fun none => ?_, fun v => ?_⟩
  · have root : advance.charpoly.IsRoot 1 := by
      rw [Polynomial.IsRoot, Polynomial.eval_eq_sum_range, degree, ← none]
      simp only [one_pow, mul_one]
    obtain ⟨v, fixed⟩ := ((Module.End.hasEigenvalue_iff_isRoot_charpoly advance 1).mpr
      root).exists_hasEigenvector
    refine fixed.2 (eq_zero_of_advance_eq ?_)
    rw [fixed.apply_eq_smul, one_smul]
  · have vanishes : Polynomial.aeval advance advance.charpoly v = 0 := by
      rw [LinearMap.aeval_self_charpoly, LinearMap.zero_apply]
    rwa [Polynomial.aeval_eq_sum_range, LinearMap.sum_apply, degree] at vanishes

/-- Of the first bits of words that are drawn one after another, one is clear. If all were set, the
combination of blocks that vanishes would have the sum of its coefficients as its first bit. -/
theorem exists_clear (h : IsStream x) (n : Nat) :
    ∃ j ≤ size * 32, bit (temper (x (n + j))) 31 = 0 := by
  by_contra all
  simp only [not_exists, not_and] at all
  have set (j : Nat) (near : j ≤ size * 32) : firstBit (block x (n + j)) = 1 := by
    rw [firstBit_block]
    exact bit_eq_one_of_ne (all j near)
  obtain ⟨c, some, vanishes⟩ := exists_combination
  have each (j : Nat) (mem : j ∈ Finset.range (size * 32 + 1)) :
      firstBit (c j • (advance ^ j) (block x n)) = c j := by
    have near : j ≤ size * 32 := by
      rw [Finset.mem_range] at mem
      omega
    rw [map_smul, advance_pow_block h, set j near, smul_eq_mul, mul_one]
  have first := congrArg firstBit (vanishes (block x n))
  rw [map_sum, map_zero, Finset.sum_congr rfl each] at first
  exact some first

end Vitae.Twister
