import Vitae.Random.Twister

/-!
The words behind the draws. A block is the beginning of a stream that goes on by one rule, refilling
a block moves it along the stream, and every draw takes the next word.
-/

namespace Vitae.Twister

/-! The stream of a block -/

/-- The words of a block and those that follow them by the rule. -/
def stream (words : Array UInt32) (n : Nat) : UInt32 :=
  if n < size then word words n
  else twist (stream words (n - size)) (stream words (n - size + 1)) (stream words (n - size + 397))
termination_by n
decreasing_by all_goals simp only [size] at *; omega

variable {words : Array UInt32}

theorem stream_of_lt {n : Nat} (inside : n < size) : stream words n = word words n := by
  rw [stream, if_pos inside]

/-- The rule of the stream. -/
theorem stream_add_size (words : Array UInt32) (n : Nat) :
    stream words (n + size)
      = twist (stream words n) (stream words (n + 1)) (stream words (n + 397)) := by
  rw [stream, if_neg (by omega), Nat.add_sub_cancel]

/-! Refilling -/

theorem word_setIfInBounds {i : Nat} (inside : i < words.size) (w : UInt32) (j : Nat) :
    word (words.setIfInBounds i w) j = if j = i then w else word words j := by
  simp only [word, Array.getD_eq_getD_getElem?, Array.getElem?_setIfInBounds]
  by_cases same : i = j
  · simp [same, same ▸ inside]
  · simp [same, Ne.symm same]

/-- A block of which the first `k` words have been renewed. -/
structure IsRenewed (words renewed : Array UInt32) (k : Nat) : Prop where
  size : renewed.size = size
  word : ∀ j < Twister.size,
    word renewed j = stream words (if j < k then j + Twister.size else j)

/-- Renewing one more word. What it is made of are words of the stream, whether or not they have
been renewed before. -/
theorem IsRenewed.step {renewed : Array UInt32} {k : Nat} (h : IsRenewed words renewed k)
    (inside : k < Twister.size) :
    IsRenewed words (renewed.setIfInBounds k (twist (Twister.word renewed k)
      (Twister.word renewed ((k + 1) % Twister.size))
      (Twister.word renewed ((k + 397) % Twister.size)))) (k + 1) := by
  have wrapped {far : Nat} (some : 0 < far) (near : far < Twister.size) :
      Twister.word renewed ((k + far) % Twister.size) = stream words (k + far) := by
    rw [h.word _ (Nat.mod_lt _ (by decide))]
    by_cases beyond : k + far < Twister.size
    · rw [Nat.mod_eq_of_lt beyond, if_neg (by omega)]
    · have rest : (k + far) % Twister.size = k + far - Twister.size := by
        rw [Nat.mod_eq_sub_mod (by omega), Nat.mod_eq_of_lt (by omega)]
      rw [rest, if_pos (by omega), Nat.sub_add_cancel (by omega)]
  have own : Twister.word renewed k = stream words k := by
    rw [h.word k inside, if_neg (by omega)]
  refine ⟨by rw [Array.size_setIfInBounds, h.size], fun j within => ?_⟩
  rw [word_setIfInBounds (by rw [h.size]; exact inside), own, wrapped (by decide) (by decide),
    wrapped (by decide) (by decide), ← stream_add_size]
  by_cases same : j = k
  · rw [if_pos same, same, if_pos (by omega)]
  · rw [if_neg same, h.word j within]
    by_cases before : j < k
    · rw [if_pos before, if_pos (by omega)]
    · rw [if_neg before, if_neg (by omega)]

theorem isRenewed_refill (full : words.size = size) : IsRenewed words (refill words) size := by
  have each (k : Nat) (inside : k ≤ size) : IsRenewed words ((List.range k).foldl (fun words k =>
      words.setIfInBounds k (twist (word words k) (word words ((k + 1) % size))
        (word words ((k + 397) % size)))) words) k := by
    induction k with
    | zero => exact ⟨full, fun j within => (stream_of_lt within).symm⟩
    | succ k ih =>
      rw [List.range_succ, List.foldl_append]
      exact (ih (by omega)).step (by omega)
  exact each size (Nat.le_refl _)

/-- The stream of the next block is what is left of the stream. -/
theorem stream_refill (full : words.size = size) (n : Nat) :
    stream (refill words) n = stream words (n + size) := by
  induction n using Nat.strongRecOn with
  | ind n ih =>
    by_cases inside : n < size
    · rw [stream_of_lt inside, (isRenewed_refill full).word n inside, if_pos inside]
    · obtain ⟨m, rfl⟩ : ∃ m, n = m + size := ⟨n - size, by omega⟩
      have ahead : 397 < size := by decide
      rw [stream_add_size, stream_add_size, ih m (by simp [size]), ih (m + 1) (by omega),
        ih (m + 397) (by omega), Nat.add_right_comm, Nat.add_right_comm m 397]

/-! Twisters -/

/-- A twister with a whole block. -/
structure IsSound (t : Twister) : Prop where
  full : t.words.size = size
  used : t.used ≤ size

/-- The words that a twister has still to give. -/
def ahead (t : Twister) (n : Nat) : UInt32 := stream t.words (t.used + n)

variable {t : Twister}

/-- Drawing takes the next word and leaves those behind it. -/
theorem next_spec (sound : t.IsSound) :
    t.next.1 = temper (t.ahead 0) ∧ t.next.2.IsSound
      ∧ ∀ n, t.next.2.ahead n = t.ahead (n + 1) := by
  have move (n : Nat) : t.used + 1 + n = t.used + (n + 1) := by omega
  by_cases beyond : size ≤ t.used
  · have spent : t.used = size := Nat.le_antisymm sound.used beyond
    have next : t.next = (temper (word (refill t.words) 0), ⟨refill t.words, 1⟩) := by
      simp [Twister.next, beyond]
    have ahead (n : Nat) : stream (refill t.words) n = t.ahead n := by
      rw [stream_refill sound.full, Twister.ahead, spent, Nat.add_comm]
    -- Stated for any block, so that nothing looks into this one.
    have begun {words : Array UInt32} (full : words.size = size) : IsSound ⟨words, 1⟩ :=
      ⟨full, by show 1 ≤ size; decide⟩
    have behind (words : Array UInt32) (n : Nat) :
        Twister.ahead ⟨words, 1⟩ n = stream words (n + 1) := by
      rw [Twister.ahead, Nat.add_comm]
    rw [next]
    refine ⟨?_, begun (isRenewed_refill sound.full).size, fun n => ?_⟩
    · rw [← ahead 0, stream_of_lt (by decide)]
    · exact (behind _ n).trans (ahead (n + 1))
  · have next : t.next = (temper (word t.words t.used), { t with used := t.used + 1 }) := by
      simp [Twister.next, beyond]
    rw [next]
    refine ⟨?_, ⟨sound.full, by show t.used + 1 ≤ size; omega⟩, fun n => ?_⟩
    · rw [Twister.ahead, stream_of_lt (by omega)]
      rfl
    · rw [Twister.ahead, Twister.ahead, move]

/-! Seeds -/

theorem size_spread (seed : UInt32) : (spread seed).size = size := by
  have each (k : Nat) : ((List.range k).foldl (fun words i =>
      words.push (1812433253 * scramble (word words i) + UInt32.ofNat (i + 1))) #[seed]).size
        = k + 1 := by
    induction k with
    | zero => rfl
    | succ k ih => rw [List.range_succ, List.foldl_append, List.foldl_cons, List.foldl_nil,
        Array.size_push, ih]
  exact each (size - 1)

theorem size_mixPass (mix : Nat → UInt32 → UInt32 → UInt32) (count first : Nat)
    (words : Array UInt32) : (mixPass mix count first words).size = words.size := by
  unfold mixPass
  induction count with
  | zero => rfl
  | succ count ih =>
    rw [List.range_succ, List.foldl_append, List.foldl_cons, List.foldl_nil]
    dsimp only
    split
    · rw [Array.size_setIfInBounds, Array.size_setIfInBounds, ih]
    · rw [Array.size_setIfInBounds, ih]

/-- Every seed gives a whole block. -/
theorem isSound_ofSeed (seed : UInt32) : (ofSeed seed).IsSound where
  full := by
    simp only [ofSeed, Array.size_setIfInBounds, size_mixPass, size_spread]
  used := Nat.le_refl _

end Vitae.Twister
