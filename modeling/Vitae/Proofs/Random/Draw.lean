import Vitae.Proofs.Random.Linear

/-!
Draws that end. A number that comes out too large has its first bit set, so it is drawn again no
more often than the twister has bits, and what is drawn is below its bound. What holds of all that a
draw gives is told by the draws it is made of.
-/

namespace Vitae

open Twister (IsStream bit temper)

namespace Twister

variable {t : Twister}

/-- What a twister gives are words that follow one another by the rule. -/
theorem isStream_ahead (t : Twister) : IsStream t.ahead := by
  intro n
  simp only [ahead, ← Nat.add_assoc]
  exact stream_add_size t.words (t.used + n)

end Twister

namespace Draw

variable {α β : Type} {t t' : Twister} {bound n : Nat}

theorem bind_apply (d : Draw α) (f : α → Draw β) (t : Twister) :
    (d >>= f) t = f (d t).1 (d t).2 := rfl

/-- Drawing bits takes one word. -/
theorem bits_spec (sound : t.IsSound) (count : Nat) :
    (bits count t).1 = (temper (t.ahead 0)).toNat / 2 ^ (32 - count)
      ∧ (bits count t).2.IsSound ∧ ∀ n, (bits count t).2.ahead n = t.ahead (n + 1) := by
  obtain ⟨first, left, move⟩ := Twister.next_spec sound
  have drawn : bits count t = (t.next.1.toNat / 2 ^ (32 - count), t.next.2) := rfl
  rw [drawn, ← first]
  exact ⟨rfl, left, move⟩

/-! Numbers below a bound -/

/-- As many bits as the bound has are drawn again and again until they are below it. -/
inductive Settles (bound : Nat) : Twister → Nat → Twister → Prop where
  | accept (t : Twister) (inside : (bits (Nat.log2 bound + 1) t).1 < bound) :
    Settles bound t (bits (Nat.log2 bound + 1) t).1 (bits (Nat.log2 bound + 1) t).2
  | refuse (t : Twister) (n : Nat) (t' : Twister)
    (outside : bound ≤ (bits (Nat.log2 bound + 1) t).1)
    (later : Settles bound (bits (Nat.log2 bound + 1) t).2 n t') : Settles bound t n t'

theorem Settles.lt (h : Settles bound t n t') : n < bound := by
  induction h with
  | accept t inside => exact inside
  | refuse t n t' outside later ih => exact ih

theorem Settles.isSound (h : Settles bound t n t') (sound : t.IsSound) : t'.IsSound := by
  induction h with
  | accept t inside => exact (bits_spec sound _).2.1
  | refuse t n t' outside later ih => exact ih (bits_spec sound _).2.1

/-- If the first bit of the next word is clear, the number is not too large. -/
theorem bits_lt_of_clear (sound : t.IsSound) (some : 0 < bound) (small : bound < 2 ^ 32)
    (clear : bit (temper (t.ahead 0)) 31 = 0) : (bits (Nat.log2 bound + 1) t).1 < bound := by
  rw [(bits_spec sound _).1]
  generalize temper (t.ahead 0) = w at clear ⊢
  have half : w.toNat < 2 ^ 31 := by
    have top : w.toNat.testBit 31 = false := by
      rw [bit] at clear
      exact Bool.eq_false_iff.mpr fun set => absurd clear (by rw [if_pos set]; decide)
    have whole : w.toNat < 2 ^ 32 := w.toNat_lt
    rw [Nat.testBit_eq_decide_div_mod_eq, decide_eq_false_iff_not] at top
    omega
  have short : Nat.log2 bound < 32 := (Nat.log2_lt some.ne').mpr small
  have pieces : 2 ^ (32 - (Nat.log2 bound + 1)) * 2 ^ Nat.log2 bound = 2 ^ 31 := by
    rw [← Nat.pow_add]
    congr 1
    omega
  have least : 2 ^ Nat.log2 bound ≤ bound := Nat.log2_self_le some.ne'
  exact Nat.lt_of_lt_of_le (Nat.div_lt_of_lt_mul (by rw [pieces]; exact half)) least

theorem belowWithin_succ (bound tries : Nat) (t : Twister) : belowWithin bound (tries + 1) t
    = if (bits (Nat.log2 bound + 1) t).1 < bound then bits (Nat.log2 bound + 1) t
      else belowWithin bound tries (bits (Nat.log2 bound + 1) t).2 := by
  rw [belowWithin, bind_apply]
  split <;> rfl

/-- The draw settles if there is a word ahead whose first bit is clear and there are as many tries
as words before it. -/
theorem settles_belowWithin (some : 0 < bound) (small : bound < 2 ^ 32) {tries : Nat}
    (sound : t.IsSound) {j : Nat} (near : j ≤ tries) (clear : bit (temper (t.ahead j)) 31 = 0) :
    Settles bound t (belowWithin bound tries t).1 (belowWithin bound tries t).2 := by
  induction tries generalizing t j with
  | zero =>
    obtain rfl : j = 0 := Nat.le_zero.mp near
    have inside := bits_lt_of_clear sound some small clear
    have same : belowWithin bound 0 t = bits (Nat.log2 bound + 1) t :=
      Prod.ext (Nat.mod_eq_of_lt inside) rfl
    rw [same]
    exact .accept t inside
  | succ tries ih =>
    rw [belowWithin_succ]
    by_cases inside : (bits (Nat.log2 bound + 1) t).1 < bound
    · rw [if_pos inside]
      exact .accept t inside
    · obtain ⟨-, left, move⟩ := bits_spec sound (Nat.log2 bound + 1)
      obtain ⟨k, rfl⟩ : ∃ k, j = k + 1 := by
        refine Nat.exists_eq_succ_of_ne_zero fun now => inside ?_
        exact bits_lt_of_clear sound some small (now ▸ clear)
      rw [if_neg inside]
      exact .refuse t _ _ (Nat.le_of_not_lt inside)
        (ih left (Nat.le_of_succ_le_succ near) (by rw [move]; exact clear))

/-- A number below a bound is always drawn, by as many tries as it takes. -/
theorem settles_below (some : 0 < bound) (small : bound < 2 ^ 32) (sound : t.IsSound) :
    Settles bound t (below bound t).1 (below bound t).2 := by
  obtain ⟨j, near, clear⟩ := Twister.exists_clear t.isStream_ahead 0
  rw [Nat.zero_add] at clear
  exact settles_belowWithin some small sound near clear

/-! What a draw gives -/

/-- Whatever a draw gives has a property, and a whole block is left. -/
def Meets (d : Draw α) (property : α → Prop) : Prop :=
  ∀ t : Twister, t.IsSound → property (d t).1 ∧ (d t).2.IsSound

variable {property : α → Prop} {d : Draw α}

theorem meets_pure {a : α} (holds : property a) : Meets (pure a) property :=
  fun _ sound => ⟨holds, sound⟩

theorem Meets.bind {after : β → Prop} {f : α → Draw β} (h : Meets d property)
    (later : ∀ a, property a → Meets (f a) after) : Meets (d >>= f) after := by
  intro t sound
  obtain ⟨holds, left⟩ := h t sound
  exact later _ holds _ left

theorem meets_word : Meets word fun _ => True :=
  fun _ sound => ⟨trivial, (Twister.next_spec sound).2.1⟩

theorem meets_fraction : Meets fraction fun _ => True :=
  meets_word.bind fun _ _ => meets_word.bind fun _ _ => meets_pure trivial

theorem meets_uniform (low high : Int) : Meets (uniform low high) fun _ => True :=
  meets_fraction.bind fun _ _ => meets_pure trivial

theorem meets_below (some : 0 < bound) (small : bound < 2 ^ 32) :
    Meets (below bound) fun n => n < bound :=
  fun _ sound =>
    have settles := settles_below some small sound
    ⟨settles.lt, settles.isSound sound⟩

theorem meets_between {low high : Nat} (ordered : low ≤ high) (small : high < 2 ^ 31) :
    Meets (between low high) fun n => low ≤ n ∧ n ≤ high :=
  (meets_below (by omega) (by omega)).bind fun n inside => meets_pure (by omega)

/-- One of some items is chosen, never what stands for those of an empty list. -/
theorem meets_choice {items : List α} (some : items ≠ []) (small : items.length < 2 ^ 32)
    (default : α) : Meets (choice default items) fun item => item ∈ items := by
  refine (meets_below (List.length_pos_of_ne_nil some) small).bind fun n inside => meets_pure ?_
  rw [List.getD_eq_getElem?_getD, List.getElem?_eq_getElem inside, Option.getD_some]
  exact List.getElem_mem inside

/-! Shuffles -/

theorem swap_perm (items : Array α) (i j : Nat) : (swap items i j).toList.Perm items.toList := by
  unfold swap Array.swapIfInBounds
  split
  · split
    · exact (Array.swap_perm _ _).toList
    · exact .refl _
  · exact .refl _

theorem shuffleFrom_perm (last : Nat) (items : Array α) (t : Twister) :
    (shuffleFrom last items t).1.toList.Perm items.toList := by
  induction last generalizing items t with
  | zero => exact .refl _
  | succ i ih =>
    rw [shuffleFrom, bind_apply]
    exact (ih _ _).trans (swap_perm items _ _)

/-- A shuffle gives the same items in some order. -/
theorem shuffle_perm (items : List α) (t : Twister) : (shuffle items t).1.Perm items :=
  shuffleFrom_perm _ items.toArray t

end Draw

end Vitae
