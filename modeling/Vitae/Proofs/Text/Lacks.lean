import Vitae.Text.Digit

/-!
Texts without a mark.
-/

namespace Vitae

/-- A character does not occur in a text. -/
def Lacks (mark : Char) (s : String) : Prop := mark ∉ s.toList

namespace Lacks

variable {mark : Char} {s t : String}

theorem append_iff : Lacks mark (s ++ t) ↔ Lacks mark s ∧ Lacks mark t := by
  unfold Lacks
  simp

theorem append (h : Lacks mark s) (h' : Lacks mark t) : Lacks mark (s ++ t) :=
  append_iff.mpr ⟨h, h'⟩

theorem intercalate {texts : List String} (h : Lacks mark s) (each : ∀ t ∈ texts, Lacks mark t) :
    Lacks mark (s.intercalate texts) := by
  induction texts with
  | nil => simp [Lacks]
  | cons first texts ih =>
    have later := ih fun t mem => each t (List.mem_cons_of_mem _ mem)
    cases texts with
    | nil => simpa using each first (by simp)
    | cons next texts =>
      rw [String.intercalate_cons_cons]
      exact ((each first (by simp)).append h).append later

theorem join {texts : List String} (each : ∀ t ∈ texts, Lacks mark t) :
    Lacks mark (String.join texts) := by
  unfold Lacks at *
  simpa using each

/-- A closed text is looked at as its characters, which is fast to compute. -/
theorem of_chars {cs : List Char} (h : s = String.ofList cs) (free : cs.all (· != mark)) :
    Lacks mark s := by
  subst h
  simp only [List.all_eq_true, bne_iff_ne] at free
  rw [Lacks, String.toList_ofList]
  exact fun mem => free mark mem rfl

end Lacks

theorem Text.not_mem_hexDigits {mark : Char} (h : ∀ d < 16, lowerHexDigit d ≠ mark)
    (width n : Nat) : mark ∉ hexDigits width n := by
  induction width generalizing n with
  | zero => simp [hexDigits]
  | succ width ih =>
    rw [hexDigits, List.mem_append, List.mem_singleton]
    rintro (mem | same)
    · exact ih _ mem
    · exact h _ (Nat.mod_lt n (by omega)) same.symm

end Vitae
