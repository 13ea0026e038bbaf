import Vitae.Proofs.Text.Utf8
import Vitae.Text.Blank
import Vitae.Text.Case

/-!
Small letters stay as they are. No small letter is a capital in turn, and none is white space or one
of the marks that names are told apart by.
-/

namespace Vitae.Text

/-- A character that is left alone among small letters. -/
def IsSmall (c : Char) : Prop := lowerChar c = [c] ∧ c ≠ 'Σ'

instance : DecidablePred IsSmall := fun c =>
  inferInstanceAs (Decidable (lowerChar c = [c] ∧ c ≠ 'Σ'))

/-- Characters that are no letters: white space, and all of the first 128 but the small letters. -/
def isMark (c : Char) : Bool := c.toNat ≤ 96 || (123 ≤ c.toNat && c.toNat ≤ 127) || isBlank c

/-- Whether no capital of a run, once it is moved, is in another run. -/
def CapitalRun.misses (up down : Nat) (run other : CapitalRun) : Bool :=
  Nat.blt (run.last + up) (other.first + down) || Nat.blt (other.last + down) (run.first + up)
    || (Nat.beq other.step 2 && (Nat.beq run.first run.last || Nat.beq run.step 2)
      && Nat.beq ((run.first + up + other.first + down) % 2) 1)

/-- Whether the small letters of a run are in none of some others. -/
def CapitalRun.missesAll (others : List CapitalRun) (run : CapitalRun) : Bool :=
  match run.shift with
  | .ofNat up => others.all (run.misses up 0)
  | .negSucc down => others.all (run.misses 0 (down + 1))

theorem CapitalRun.contains_of_misses {up down : Nat} {run other : CapitalRun}
    (apart : run.misses up down other) {c d : Char} (capital : run.contains c)
    (moved : d.toNat + down = c.toNat + up) : other.contains d = false := by
  obtain ⟨first, last, step, shift⟩ := run
  obtain ⟨first', last', step', shift'⟩ := other
  simp only [contains, Bool.and_eq_true, decide_eq_true_eq] at capital
  simp only [misses, Bool.or_eq_true, Bool.and_eq_true, Nat.blt_eq, Nat.beq_eq] at apart
  rw [← Bool.not_eq_true]
  intro inside
  simp only [contains, Bool.and_eq_true, decide_eq_true_eq] at inside
  rcases apart with (below | above) | ⟨⟨rfl, alone | rfl⟩, odd⟩
  · omega
  · omega
  · omega
  · omega

theorem CapitalRun.contains_eq_false {run other : CapitalRun} {others : List CapitalRun}
    (apart : run.missesAll others) (mem : other ∈ others) {c d : Char} (capital : run.contains c)
    (small : (d.toNat : Int) = c.toNat + run.shift) : other.contains d = false := by
  unfold missesAll at apart
  split at apart
  · next up shift =>
    have moved : d.toNat + 0 = c.toNat + up := by
      rw [shift] at small
      exact Int.ofNat.inj small
    exact contains_of_misses (List.all_eq_true.mp apart other mem) capital moved
  · next down shift =>
    have moved : d.toNat + (down + 1) = c.toNat + 0 := by
      rw [shift, Int.negSucc_eq] at small
      omega
    exact contains_of_misses (List.all_eq_true.mp apart other mem) capital moved

/-- What small letters must not be: what is not a character at all, the capital I with a dot, and
marks. -/
def markRuns : List CapitalRun := [
  ⟨0, 96, 1, 0⟩, ⟨123, 127, 1, 0⟩, ⟨0x85, 0x85, 1, 0⟩, ⟨0xa0, 0xa0, 1, 0⟩, ⟨304, 304, 1, 0⟩,
  ⟨0x1680, 0x1680, 1, 0⟩, ⟨0x2000, 0x200a, 1, 0⟩, ⟨0x2028, 0x2029, 1, 0⟩, ⟨0x202f, 0x202f, 1, 0⟩,
  ⟨0x205f, 0x205f, 1, 0⟩, ⟨0x3000, 0x3000, 1, 0⟩]

theorem missesAll_of_mem {run : CapitalRun} (mem : run ∈ capitalRuns) :
    run.missesAll (capitalRuns ++ markRuns) := by
  have apart : capitalRuns.all (CapitalRun.missesAll (capitalRuns ++ markRuns)) := by
    decide +kernel
  exact List.all_eq_true.mp apart run mem

theorem toNat_small {run : CapitalRun} (mem : run ∈ capitalRuns) {c : Char}
    (capital : run.contains c) :
    ((Char.ofNat ((c.toNat : Int) + run.shift).toNat).toNat : Int) = c.toNat + run.shift := by
  have valid : capitalRuns.all fun run => 0 < run.first + run.shift
      && (run.last + run.shift < 0xd800 || 0xdfff < run.first + run.shift)
      && run.last + run.shift < 0x110000 := by decide +kernel
  have own := List.all_eq_true.mp valid run mem
  simp only [Bool.and_eq_true, Bool.or_eq_true, decide_eq_true_eq] at own
  simp only [CapitalRun.contains, Bool.and_eq_true, decide_eq_true_eq] at capital
  have scalar : ((c.toNat : Int) + run.shift).toNat.isValidChar := by
    unfold Nat.isValidChar
    omega
  rw [Utf8.toNat_ofNat scalar]
  omega

/-- How a character becomes small. -/
theorem lowerChar_cases (c : Char) : (c.toNat < 128 ∧ lowerChar c = [c.toLower])
    ∨ (c = 'İ' ∧ lowerChar c = ['i', '\u0307'])
    ∨ (∃ run ∈ capitalRuns, run.contains c
      ∧ lowerChar c = [Char.ofNat ((c.toNat : Int) + run.shift).toNat])
    ∨ (lowerChar c = [c] ∧ ∀ run ∈ capitalRuns, run.contains c = false) := by
  unfold lowerChar
  by_cases ascii : c.toNat < 128
  · exact .inl ⟨ascii, if_pos ascii⟩
  · rw [if_neg ascii]
    by_cases dotted : c = 'İ'
    · exact .inr (.inl ⟨dotted, if_pos dotted⟩)
    · rw [if_neg dotted]
      cases found : capitalRuns.find? fun run => run.contains c with
      | some run =>
        exact .inr (.inr (.inl ⟨run, List.mem_of_find?_eq_some found,
          by simpa using List.find?_some found, rfl⟩))
      | none =>
        refine .inr (.inr (.inr ⟨rfl, fun run mem => ?_⟩))
        simpa using List.find?_eq_none.mp found run mem

/-- What holds of the first 128 characters. -/
theorem ascii_induction {p : Char → Prop} (each : ∀ n < 128, p (.ofNat n)) {c : Char}
    (h : c.toNat < 128) : p c := by
  have small := each c.toNat h
  rwa [Char.ofNat_toNat] at small

theorem ne_sigma {c : Char} (small : ∀ run ∈ capitalRuns, run.contains c = false) : c ≠ 'Σ' := by
  rintro rfl
  have capital : capitalRuns.any fun run => run.contains 'Σ' := by decide
  obtain ⟨run, mem, inside⟩ := List.any_eq_true.mp capital
  rw [small run mem] at inside
  cases inside

theorem exists_markRun {c : Char} (mark : isMark c) : ∃ run ∈ markRuns, run.contains c := by
  rw [← List.any_eq_true]
  simp only [isMark, isBlank, Bool.or_eq_true, Bool.and_eq_true, decide_eq_true_eq,
    beq_iff_eq] at mark
  simp [markRuns, CapitalRun.contains, Nat.mod_one]
  omega

/-- The small letter of a capital is in no run at all. -/
theorem misses_small {run : CapitalRun} (mem : run ∈ capitalRuns) {c : Char}
    (capital : run.contains c) {other : CapitalRun} (mem' : other ∈ capitalRuns ++ markRuns) :
    other.contains (Char.ofNat ((c.toNat : Int) + run.shift).toNat) = false :=
  CapitalRun.contains_eq_false (missesAll_of_mem mem) mem' capital (toNat_small mem capital)

/-- What is small stays small. -/
theorem isSmall_of_mem_lowerChar {c d : Char} (mem : d ∈ lowerChar c) : IsSmall d := by
  rcases lowerChar_cases c with
    ⟨ascii, small⟩ | ⟨-, small⟩ | ⟨run, known, capital, small⟩ | ⟨same, few⟩
  · rw [small, List.mem_singleton] at mem
    subst mem
    exact ascii_induction (p := fun c => IsSmall c.toLower) (by decide +kernel) ascii
  · have both : IsSmall 'i' ∧ IsSmall '\u0307' := by decide +kernel
    simp only [small, List.mem_cons, List.not_mem_nil, or_false] at mem
    rcases mem with rfl | rfl
    · exact both.1
    · exact both.2
  · rw [small, List.mem_singleton] at mem
    subst mem
    have apart (other : CapitalRun) (mem' : other ∈ capitalRuns ++ markRuns) :=
      misses_small known capital mem'
    generalize Char.ofNat ((c.toNat : Int) + run.shift).toNat = d at apart
    have few : ∀ other ∈ capitalRuns, other.contains d = false := fun other mem' =>
      apart other (List.mem_append_left _ mem')
    have unmarked : ∀ other ∈ markRuns, other.contains d = false := fun other mem' =>
      apart other (List.mem_append_right _ mem')
    rcases lowerChar_cases d with ⟨ascii, -⟩ | dotted | ⟨run', known', capital', -⟩ | ⟨same, -⟩
    · have letter : isMark d = false := by
        rw [← Bool.not_eq_true]
        intro mark
        obtain ⟨run', known', inside⟩ := exists_markRun mark
        rw [unmarked run' known'] at inside
        cases inside
      exact ascii_induction (p := fun d => isMark d = false → IsSmall d) (by decide +kernel) ascii
        letter
    · have plain := unmarked ⟨304, 304, 1, 0⟩ (by simp [markRuns])
      rw [dotted.1] at plain
      exact absurd plain (by decide)
    · rw [few run' known'] at capital'
      cases capital'
    · exact ⟨same, ne_sigma few⟩
  · rw [same, List.mem_singleton] at mem
    subst mem
    exact ⟨same, ne_sigma few⟩

/-- No mark comes of making a text small. -/
theorem isMark_of_mem_lowerChar {c d : Char} (mem : d ∈ lowerChar c) (mark : isMark d) :
    d = c := by
  rcases lowerChar_cases c with
    ⟨ascii, small⟩ | ⟨-, small⟩ | ⟨run, known, capital, small⟩ | ⟨same, -⟩
  · rw [small, List.mem_singleton] at mem
    subst mem
    exact ascii_induction (p := fun c => isMark c.toLower → c.toLower = c) (by decide +kernel)
      ascii mark
  · have none : isMark 'i' = false ∧ isMark '\u0307' = false := by decide
    simp only [small, List.mem_cons, List.not_mem_nil, or_false] at mem
    rcases mem with rfl | rfl
    · exact absurd mark (by simp [none.1])
    · exact absurd mark (by simp [none.2])
  · rw [small, List.mem_singleton] at mem
    subst mem
    obtain ⟨other, known', inside⟩ := exists_markRun mark
    rw [misses_small known capital (List.mem_append_right capitalRuns known')] at inside
    cases inside
  · rw [same, List.mem_singleton] at mem
    exact mem

/-! Texts -/

theorem cases_of_mem_lowerFrom {passed cs : List Char} {d : Char} (mem : d ∈ lowerFrom passed cs) :
    d = 'ς' ∨ ∃ c ∈ cs, d ∈ lowerChar c := by
  induction cs generalizing passed with
  | nil => cases mem
  | cons c cs ih =>
    rw [lowerFrom, List.mem_append] at mem
    rcases mem with first | later
    · split at first
      · exact .inl (List.mem_singleton.mp first)
      · exact .inr ⟨c, List.mem_cons_self, first⟩
    · rcases ih later with last | ⟨c', mem', small⟩
      · exact .inl last
      · exact .inr ⟨c', List.mem_cons_of_mem _ mem', small⟩

theorem isSmall_of_mem_lower {s : String} {d : Char} (mem : d ∈ (lower s).toList) : IsSmall d := by
  rw [lower, String.toList_ofList] at mem
  rcases cases_of_mem_lowerFrom mem with rfl | ⟨c, -, small⟩
  · decide +kernel
  · exact isSmall_of_mem_lowerChar small

/-- A mark among small letters was there before. -/
theorem mem_of_mem_lowerFrom {passed cs : List Char} {d : Char} (mem : d ∈ lowerFrom passed cs)
    (mark : isMark d) : d ∈ cs := by
  rcases cases_of_mem_lowerFrom mem with rfl | ⟨c, inside, small⟩
  · exact absurd mark (by decide)
  · exact isMark_of_mem_lowerChar small mark ▸ inside

theorem lowerFrom_of_isSmall (passed : List Char) {cs : List Char} (small : ∀ c ∈ cs, IsSmall c) :
    lowerFrom passed cs = cs := by
  induction cs generalizing passed with
  | nil => rfl
  | cons c cs ih =>
    obtain ⟨same, sigma⟩ := small c List.mem_cons_self
    rw [lowerFrom, ih _ fun d mem => small d (List.mem_cons_of_mem _ mem), if_neg (by simp [sigma]),
      same, List.singleton_append]

theorem lower_lower (s : String) : lower (lower s) = lower s := by
  have small := lowerFrom_of_isSmall [] fun c mem => isSmall_of_mem_lower (s := s) mem
  rw [lower, small, String.ofList_toList]

/-- A character of the first 128 becomes small by itself. -/
theorem lowerFrom_cons_ascii (passed : List Char) {c : Char} (ascii : c.toNat < 128)
    (cs : List Char) : lowerFrom passed (c :: cs) = c.toLower :: lowerFrom (c :: passed) cs := by
  have sigma : c ≠ 'Σ' := by
    rintro rfl
    exact absurd ascii (by decide)
  rw [lowerFrom, if_neg (by simp [sigma]), lowerChar, if_pos ascii, List.singleton_append]

theorem lowerFrom_cons_ne_nil (passed : List Char) (c : Char) (cs : List Char) :
    lowerFrom passed (c :: cs) ≠ [] := by
  have some : lowerChar c ≠ [] := by
    rcases lowerChar_cases c with ⟨-, h⟩ | ⟨-, h⟩ | ⟨run, -, -, h⟩ | ⟨h, -⟩ <;> simp [h]
  rw [lowerFrom]
  split <;> simp [some]

end Vitae.Text
