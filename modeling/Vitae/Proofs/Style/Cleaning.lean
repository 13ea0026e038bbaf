import Mathlib.Logic.Function.Iterate
import Vitae.Proofs.Text.Trim
import Vitae.Style.Declarations

/-!
What cleaning leaves. There is neither a mark nor a comment sign in it, so cleaning it again changes
nothing, and it takes nothing out of a text that is safe already.
-/

namespace Vitae.Style

/-- Characters that neither end a rule or the style element nor begin or end a comment. -/
structure IsClean (cs : List Char) : Prop where
  marks : ∀ c ∈ cs, isCssMark c = false
  opening : ¬ ['/', '*'] <:+: cs
  closing : ¬ ['*', '/'] <:+: cs

theorem isClean_nil : IsClean [] := ⟨by simp, by simp, by simp⟩

theorem IsClean.of_isInfix {cs part : List Char} (h : IsClean cs) (inside : part <:+: cs) :
    IsClean part where
  marks c mem := h.marks c (inside.subset mem)
  opening within := h.opening (within.trans inside)
  closing within := h.closing (within.trans inside)

theorem isClean_cons_iff {c : Char} {cs : List Char} : IsClean (c :: cs) ↔ isCssMark c = false
    ∧ ¬ ['/', '*'] <+: c :: cs ∧ ¬ ['*', '/'] <+: c :: cs ∧ IsClean cs := by
  constructor
  · intro h
    exact ⟨h.marks c List.mem_cons_self, fun start => h.opening start.isInfix,
      fun start => h.closing start.isInfix, h.of_isInfix (List.suffix_cons c cs).isInfix⟩
  · rintro ⟨mark, opening, closing, rest⟩
    refine ⟨?_, ?_, ?_⟩
    · simpa [mark] using rest.marks
    · rw [List.infix_cons_iff, not_or]
      exact ⟨opening, rest.opening⟩
    · rw [List.infix_cons_iff, not_or]
      exact ⟨closing, rest.closing⟩

theorem length_stripMarks_le (cs : List Char) : (stripMarks cs).length ≤ cs.length := by
  fun_induction stripMarks cs with
  | case1 => simp
  | case2 rest ih => simp only [List.length_cons]; omega
  | case3 rest ih => simp only [List.length_cons]; omega
  | case4 c rest _ _ mark ih => simp only [List.length_cons]; omega
  | case5 c rest _ _ mark ih => simp only [List.length_cons]; omega

/-- A pass that takes nothing out has found nothing. -/
theorem isClean_of_length_stripMarks {cs : List Char}
    (same : ¬ (stripMarks cs).length < cs.length) : IsClean cs := by
  fun_induction stripMarks cs with
  | case1 => exact isClean_nil
  | case2 rest ih =>
    have := length_stripMarks_le rest
    simp only [List.length_cons] at same
    omega
  | case3 rest ih =>
    have := length_stripMarks_le rest
    simp only [List.length_cons] at same
    omega
  | case4 c rest _ _ mark ih =>
    have := length_stripMarks_le rest
    simp only [List.length_cons] at same
    omega
  | case5 c rest opening closing mark ih =>
    simp only [List.length_cons, Nat.add_lt_add_iff_right] at same
    refine isClean_cons_iff.mpr ⟨by simpa using mark, ?_, ?_, ih same⟩
    · rintro ⟨more, whole⟩
      simp only [List.cons_append, List.nil_append, List.cons.injEq] at whole
      exact opening more whole.1.symm whole.2.symm
    · rintro ⟨more, whole⟩
      simp only [List.cons_append, List.nil_append, List.cons.injEq] at whole
      exact closing more whole.1.symm whole.2.symm

theorem stripMarks_of_isClean {cs : List Char} (h : IsClean cs) : stripMarks cs = cs := by
  fun_induction stripMarks cs with
  | case1 => rfl
  | case2 rest ih => exact absurd (List.prefix_append ['/', '*'] rest).isInfix h.opening
  | case3 rest ih => exact absurd (List.prefix_append ['*', '/'] rest).isInfix h.closing
  | case4 c rest _ _ mark ih => simp [(isClean_cons_iff.mp h).1] at mark
  | case5 c rest _ _ mark ih => rw [ih (isClean_cons_iff.mp h).2.2.2]

theorem isClean_cleanDeclarations (cs : List Char) : IsClean (cleanDeclarations cs) := by
  fun_induction cleanDeclarations cs with
  | case1 cs shorter ih => exact ih
  | case2 cs same => exact isClean_of_length_stripMarks same

theorem cleanDeclarations_of_isClean {cs : List Char} (h : IsClean cs) :
    cleanDeclarations cs = cs := by
  rw [cleanDeclarations, stripMarks_of_isClean h, if_neg (by simp)]

/-- The loop comes to its end, and only takes characters out. -/
theorem exists_passes (cs : List Char) :
    ∃ passes ≤ cs.length, cleanDeclarations cs = stripMarks^[passes] cs := by
  fun_induction cleanDeclarations cs with
  | case1 cs shorter ih =>
    obtain ⟨passes, few, same⟩ := ih
    exact ⟨passes + 1, by omega, same⟩
  | case2 cs same => exact ⟨0, Nat.zero_le _, rfl⟩

theorem stripMarks_sublist (cs : List Char) : (stripMarks cs).Sublist cs := by
  fun_induction stripMarks cs with
  | case1 => exact List.Sublist.refl []
  | case2 rest ih => exact (ih.cons _).cons _
  | case3 rest ih => exact (ih.cons _).cons _
  | case4 c rest _ _ mark ih => exact ih.cons c
  | case5 c rest _ _ mark ih => exact ih.cons_cons c

theorem cleanDeclarations_sublist (cs : List Char) : (cleanDeclarations cs).Sublist cs := by
  fun_induction cleanDeclarations cs with
  | case1 cs shorter ih => exact ih.trans (stripMarks_sublist cs)
  | case2 cs same => exact List.Sublist.refl cs

theorem isClean_sanitizeChars (cs : List Char) : IsClean (sanitizeChars cs) :=
  (isClean_cleanDeclarations cs).of_isInfix (Text.trimChars_isInfix _)

theorem sanitizeChars_sanitizeChars (cs : List Char) :
    sanitizeChars (sanitizeChars cs) = sanitizeChars cs := by
  have clean := cleanDeclarations_of_isClean (isClean_sanitizeChars cs)
  rw [sanitizeChars, clean, sanitizeChars, Text.trimChars_trimChars]

/-- The safe part of a text. -/
def safePart (s : String) : String := String.ofList (sanitizeChars s.toList)

theorem isClean_safePart (s : String) : IsClean (safePart s).toList := by
  rw [safePart, String.toList_ofList]
  exact isClean_sanitizeChars s.toList

/-- There is nothing to take out of a safe part. -/
theorem safePart_safePart (s : String) : safePart (safePart s) = safePart s := by
  rw [safePart, safePart, String.toList_ofList, sanitizeChars_sanitizeChars]

theorem sanitize_eq_ok {zone text : String} {value : Json} :
    sanitize zone value = .ok text ↔ ∃ s, value = .string s ∧ safePart s = text := by
  cases value <;> simp [sanitize, safePart]

/-- A text that cannot leave its place in a rule, with white space at neither end. -/
structure IsSafe (cs : List Char) : Prop extends Text.IsTrimmed cs where
  marks : ∀ mark ∈ ['<', '>', '\x7b', '\x7d'], mark ∉ cs
  opening : ¬ ['/', '*'] <:+: cs
  closing : ¬ ['*', '/'] <:+: cs

theorem isCssMark_eq_false_iff {c : Char} :
    isCssMark c = false ↔ c ∉ ['<', '>', '\x7b', '\x7d'] := by
  simp [isCssMark, and_assoc]

theorem isSafe_iff {cs : List Char} : IsSafe cs ↔ Text.IsTrimmed cs ∧ IsClean cs := by
  constructor
  · intro h
    exact ⟨h.toIsTrimmed, fun c mem => isCssMark_eq_false_iff.mpr fun mark => h.marks c mark mem,
      h.opening, h.closing⟩
  · rintro ⟨trimmed, clean⟩
    exact ⟨trimmed, fun c mark mem => isCssMark_eq_false_iff.mp (clean.marks c mem) mark,
      clean.opening, clean.closing⟩

theorem isSafe_sanitizeChars (cs : List Char) : IsSafe (sanitizeChars cs) :=
  isSafe_iff.mpr ⟨Text.isTrimmed_trimChars _, isClean_sanitizeChars cs⟩

theorem sanitizeChars_of_isSafe {cs : List Char} (h : IsSafe cs) : sanitizeChars cs = cs := by
  obtain ⟨trimmed, clean⟩ := isSafe_iff.mp h
  rw [sanitizeChars, cleanDeclarations_of_isClean clean, trimmed.trimChars_eq]

theorem sanitize_string (zone s : String) : sanitize zone (.string s) = .ok (safePart s) := rfl

/-- Every text has a safe part, whatever zone it is for. No more passes are made than the text has
characters; the result cannot leave its place, nothing in it was not there before, a text that is
safe already is not touched, and there is nothing to be done to the result. -/
theorem sanitize_takes_no_more_than_needed (zone s : String) :
    ∃ text, sanitize zone (.string s) = .ok text
      ∧ (∃ passes ≤ s.toList.length,
        text.toList = Text.trimChars (stripMarks^[passes] s.toList))
      ∧ IsSafe text.toList
      ∧ text.toList.Sublist s.toList
      ∧ (IsSafe s.toList → text = s)
      ∧ sanitize zone (.string text) = .ok text := by
  have chars : (safePart s).toList = sanitizeChars s.toList := String.toList_ofList
  refine ⟨safePart s, sanitize_string zone s, ?_, ?_, ?_, fun safe => ?_, ?_⟩
  · obtain ⟨passes, few, same⟩ := exists_passes s.toList
    exact ⟨passes, few, by rw [chars, sanitizeChars, same]⟩
  · rw [chars]
    exact isSafe_sanitizeChars s.toList
  · rw [chars]
    exact (Text.trimChars_sublist _).trans (cleanDeclarations_sublist s.toList)
  · rw [safePart, sanitizeChars_of_isSafe safe, String.ofList_toList]
  · rw [sanitize_string, safePart_safePart]

/-- A declaration with a slash and a star that are apart is safe as it is. -/
theorem sanitize_takes_no_more_than_needed_apart :
    IsSafe "margin: 1 / 2 *".toList
      ∧ sanitize "name" (.string "margin: 1 / 2 *") = .ok "margin: 1 / 2 *" := by
  have clean : IsClean "margin: 1 / 2 *".toList := isClean_of_length_stripMarks (by decide)
  have start : "margin: 1 / 2 *".toList.head? = some 'm' := rfl
  have stop : "margin: 1 / 2 *".toList.getLast? = some '*' := rfl
  have trimmed : Text.IsTrimmed "margin: 1 / 2 *".toList := by
    constructor
    · rw [start]
      rintro _ ⟨⟩
      decide
    · rw [stop]
      rintro _ ⟨⟩
      decide
  have safe : IsSafe "margin: 1 / 2 *".toList := isSafe_iff.mpr ⟨trimmed, clean⟩
  obtain ⟨text, same, -, -, -, kept, -⟩ :=
    sanitize_takes_no_more_than_needed "name" "margin: 1 / 2 *"
  exact ⟨safe, same.trans (congrArg _ (kept safe))⟩

/-- What is left of joined signs can be a sign again, so one pass is not enough. -/
example : stripMarks "/<*".toList = "/*".toList ∧ safePart "/<*" = "" := by
  constructor <;> cbv

end Vitae.Style
