import Mathlib.Data.List.DropRight
import Vitae.Text.Blank

/-!
Trimming. It takes from the ends of a text only, and there is nothing to take from what is left.
-/

namespace Vitae.Text

theorem trimRight_isPrefix (cs : List Char) : trimRight cs <+: cs :=
  List.rdropWhile_prefix isBlank cs

theorem trimChars_isInfix (cs : List Char) : trimChars cs <:+: cs :=
  (trimRight_isPrefix _).isInfix.trans (List.dropWhile_suffix isBlank).isInfix

theorem trimLeft_trimChars (cs : List Char) : trimLeft (trimChars cs) = trimChars cs := by
  cases trimmed : trimChars cs with
  | nil => rfl
  | cons c rest =>
    -- The first character left is the one the left end was trimmed to.
    have start : trimRight (trimLeft cs) = c :: rest := trimmed
    obtain ⟨gone, whole⟩ := trimRight_isPrefix (trimLeft cs)
    rw [start] at whole
    have shown : isBlank c = false := by
      have first := List.head?_dropWhile_not isBlank cs
      rw [← trimLeft, ← whole] at first
      simpa using first
    simp [trimLeft, shown]

theorem trimChars_trimChars (cs : List Char) : trimChars (trimChars cs) = trimChars cs := by
  rw [trimChars, trimLeft_trimChars]
  exact List.rdropWhile_idempotent isBlank _

theorem trimChars_sublist (cs : List Char) : (trimChars cs).Sublist cs :=
  (trimChars_isInfix cs).sublist

/-- A text with white space at neither end. -/
structure IsTrimmed (cs : List Char) : Prop where
  start : ∀ c ∈ cs.head?, isBlank c = false
  stop : ∀ c ∈ cs.getLast?, isBlank c = false

theorem IsTrimmed.trimChars_eq {cs : List Char} (h : IsTrimmed cs) : trimChars cs = cs := by
  have left : trimLeft cs = cs := by
    cases cs with
    | nil => rfl
    | cons c rest => simp [trimLeft, h.start c rfl]
  rw [trimChars, left]
  by_cases empty : cs = []
  · rw [empty]
    rfl
  · have stop := h.stop (cs.getLast empty) (List.getLast?_eq_some_getLast empty)
    exact List.rdropWhile_eq_self_iff.mpr fun _ => by simp [stop]

theorem isTrimmed_trimChars (cs : List Char) : IsTrimmed (trimChars cs) where
  start := by
    intro c mem
    rw [← trimLeft_trimChars cs] at mem
    have first := List.head?_dropWhile_not isBlank (trimChars cs)
    rw [← trimLeft, Option.mem_def.mp mem] at first
    simpa using first
  stop := by
    intro c mem
    obtain ⟨some, same⟩ := List.mem_getLast?_eq_getLast mem
    rw [same]
    exact Bool.not_eq_true _ ▸ List.rdropWhile_last_not isBlank (trimLeft cs) some

end Vitae.Text
