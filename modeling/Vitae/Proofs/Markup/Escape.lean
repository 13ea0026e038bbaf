import Vitae.Markup.Parser

/-!
Escapes read back. In text and in attribute values, what a character is written as is read as that
character, whatever stands behind it.
-/

namespace Vitae

open Html (escapeMarkup)

/-- The characters that markup is escaped for. -/
def isEscaped (c : Char) : Bool := c == '&' || c == '<' || c == '>' || c == '"' || c == '\''

theorem cases_of_isEscaped {c : Char} (h : isEscaped c) :
    c = '&' ∨ c = '<' ∨ c = '>' ∨ c = '"' ∨ c = '\'' := by
  simpa [isEscaped, or_assoc] using h

theorem escapeMarkup_of_not_isEscaped {c : Char} (h : isEscaped c = false) :
    escapeMarkup c = [c] := by
  unfold escapeMarkup
  split <;> first | exact absurd h (by decide) | rfl

theorem quote_not_mem_escapeMarkup (c : Char) : '"' ∉ escapeMarkup c := by
  by_cases h : isEscaped c
  · rcases cases_of_isEscaped h with rfl | rfl | rfl | rfl | rfl <;> decide
  · rw [Bool.not_eq_true] at h
    rw [escapeMarkup_of_not_isEscaped h, List.mem_singleton]
    rintro rfl
    exact absurd h (by decide)

theorem quote_not_mem_escaped (cs : List Char) : '"' ∉ cs.flatMap escapeMarkup := by
  simp [List.mem_flatMap, quote_not_mem_escapeMarkup]

namespace Reference

theorem resolveFrom_escapeMarkup (c : Char) (rest : List Char) :
    resolveFrom 0 (escapeMarkup c ++ rest) = c :: resolveFrom 0 rest := by
  by_cases h : isEscaped c
  · rcases cases_of_isEscaped h with rfl | rfl | rfl | rfl | rfl <;> rfl
  · rw [Bool.not_eq_true] at h
    rw [escapeMarkup_of_not_isEscaped h, List.singleton_append, resolveFrom, if_neg]
    rintro rfl
    exact absurd h (by decide)

/-- A value means what was escaped, if each of its characters is resolved. -/
theorem resolveValue_flatMap {escape : Html.Escape}
    (each : ∀ c rest, resolveFrom 0 (escape c ++ rest) = c :: resolveFrom 0 rest)
    (cs : List Char) : resolveValue (cs.flatMap escape) = cs := by
  unfold resolveValue
  induction cs with
  | nil => rfl
  | cons c cs ih => rw [List.flatMap_cons, each, ih]

/-- An attribute value means what was escaped. -/
theorem resolveValue_escaped (cs : List Char) : resolveValue (cs.flatMap escapeMarkup) = cs :=
  resolveValue_flatMap resolveFrom_escapeMarkup cs

end Reference

namespace Token

/-- Tokens that build the same tree wherever they stand, and are refused alike. Text may come in
pieces of any size. -/
structure Alike (tokens others : List Token) : Prop where
  nesting : ∀ n : Html.Nesting,
    tokens.foldl Html.Nesting.step n = others.foldl Html.Nesting.step n
  unknown : .unknownSection ∈ tokens ↔ .unknownSection ∈ others

namespace Alike

theorem refl (tokens : List Token) : Alike tokens tokens := ⟨fun _ => rfl, Iff.rfl⟩

theorem symm {a b : List Token} (h : Alike a b) : Alike b a :=
  ⟨fun n => (h.nesting n).symm, h.unknown.symm⟩

theorem trans {a b c : List Token} (h : Alike a b) (h' : Alike b c) : Alike a c :=
  ⟨fun n => (h.nesting n).trans (h'.nesting n), h.unknown.trans h'.unknown⟩

theorem append_left {a b : List Token} (h : Alike a b) (before : List Token) :
    Alike (before ++ a) (before ++ b) := by
  refine ⟨fun n => ?_, ?_⟩
  · simp only [List.foldl_append, h.nesting]
  · simp only [List.mem_append, h.unknown]

theorem text_append (s t : List Char) (more : List Token) :
    Alike (.text (String.ofList s) :: .text (String.ofList t) :: more)
      (.text (String.ofList (s ++ t)) :: more) := by
  refine ⟨fun n => ?_, by simp⟩
  simp [Html.Nesting.step, String.append_assoc]

theorem text_nil (more : List Token) : Alike more (.text (String.ofList []) :: more) := by
  refine ⟨fun n => ?_, by simp⟩
  simp [Html.Nesting.step]

end Alike

/-- With enough fuel, a text is read as tokens like these. -/
def Reads (s : State) (cs : List Char) (tokens : List Token) : Prop :=
  ∀ fuel, cs.length ≤ fuel → Alike (readFrom fuel s cs) tokens

theorem Reads.like {s : State} {cs : List Char} {tokens others : List Token}
    (h : Reads s cs tokens) (same : Alike tokens others) : Reads s cs others :=
  fun fuel enough => (h fuel enough).trans same

theorem reads_nil (s : State) : Reads s [] [] := by
  intro fuel _
  cases fuel <;> exact Alike.refl []

theorem readFrom_succ {s s' : State} {cs rest : List Char} {tokens : List Token}
    (h : step s cs = (s', tokens, rest)) (begun : cs ≠ []) (fuel : Nat) :
    readFrom (fuel + 1) s cs = tokens ++ readFrom fuel s' rest := by
  cases cs with
  | nil => exact absurd rfl begun
  | cons c cs => rw [readFrom, h]; simp

/-- A step that gets on, and then the reading of what it leaves. -/
theorem reads_step {s s' : State} {cs rest : List Char} {tokens more : List Token}
    (h : step s cs = (s', tokens, rest)) (shorter : rest.length < cs.length)
    (later : Reads s' rest more) : Reads s cs (tokens ++ more) := by
  intro fuel enough
  cases fuel with
  | zero => omega
  | succ fuel =>
    have begun : cs ≠ [] := by rintro rfl; simp at shorter
    rw [readFrom_succ h begun]
    exact (later fuel (by omega)).append_left tokens

/-- A character that begins no markup. -/
def isTextChar (c : Char) : Bool := !(c == '<' || c == '&')

theorem step_of_isTextChar {c : Char} (h : isTextChar c) (cs : List Char) :
    step {} (c :: cs) = ({}, [.text (String.ofList (c :: cs.takeWhile isTextChar))],
      cs.drop (cs.takeWhile isTextChar).length) := by
  have less : c ≠ '<' := by rintro rfl; exact absurd h (by decide)
  have amp : c ≠ '&' := by rintro rfl; exact absurd h (by decide)
  have run : (c :: cs).takeWhile isTextChar = c :: cs.takeWhile isTextChar :=
    List.takeWhile_cons_of_pos h
  change (c :: cs).takeWhile (fun c => !(c == '<' || c == '&')) = _ at run
  simp only [step, List.head?_cons, run]
  split
  case h_1 first => exact absurd (Option.some.inj first) less
  case h_2 first => exact absurd (Option.some.inj first) amp
  case h_3 => rfl

/-- A character of text joins the text behind it. -/
theorem reads_char {c : Char} (h : isTextChar c) {rest : List Char} {more : List Token}
    (later : Reads {} rest more) : Reads {} (c :: rest) (.text (String.ofList [c]) :: more) := by
  intro fuel enough
  cases fuel with
  | zero => simp at enough
  | succ fuel =>
    simp only [List.length_cons, Nat.add_le_add_iff_right] at enough
    rw [readFrom_succ (step_of_isTextChar h rest) (by simp)]
    cases rest with
    | nil => exact (later fuel enough).append_left [_]
    | cons d rest =>
      by_cases text : isTextChar d
      · -- one step takes both, so the rest is looked at with one more unit of fuel
        have next := later (fuel + 1) (by omega)
        rw [readFrom_succ (step_of_isTextChar text rest) (by simp)] at next
        rw [List.takeWhile_cons_of_pos text]
        exact (Alike.text_append [c] _ _).symm.trans (next.append_left [_])
      · rw [List.takeWhile_cons_of_neg text]
        exact (later fuel enough).append_left [_]

theorem step_escapeMarkup {c : Char} (h : isEscaped c) (rest : List Char) :
    step {} (escapeMarkup c ++ rest) = ({}, [.text (String.ofList [c])], rest) := by
  rcases cases_of_isEscaped h with rfl | rfl | rfl | rfl | rfl <;> rfl

theorem reads_escapeMarkup (c : Char) {rest : List Char} {more : List Token}
    (later : Reads {} rest more) :
    Reads {} (escapeMarkup c ++ rest) (.text (String.ofList [c]) :: more) := by
  by_cases h : isEscaped c
  · refine reads_step (step_escapeMarkup h rest) ?_ later
    rcases cases_of_isEscaped h with rfl | rfl | rfl | rfl | rfl <;> simp [escapeMarkup] <;> omega
  · rw [Bool.not_eq_true] at h
    have text : isTextChar c := by
      simp only [isEscaped, Bool.or_eq_false_iff] at h
      simp [isTextChar, h]
    rw [escapeMarkup_of_not_isEscaped h]
    exact reads_char text later

/-- An escaped text is read as that text, if each of its characters is. -/
theorem reads_flatMap {escape : Html.Escape}
    (each : ∀ c rest more, Reads {} rest more →
      Reads {} (escape c ++ rest) (.text (String.ofList [c]) :: more))
    (cs : List Char) {rest : List Char} {more : List Token} (later : Reads {} rest more) :
    Reads {} (cs.flatMap escape ++ rest) (.text (String.ofList cs) :: more) := by
  induction cs with
  | nil => exact later.like (Alike.text_nil more)
  | cons c cs ih =>
    rw [List.flatMap_cons, List.append_assoc]
    exact (each c _ _ ih).like (Alike.text_append [c] cs more)

end Token

end Vitae
