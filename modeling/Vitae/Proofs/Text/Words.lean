import Mathlib.Data.List.Chain
import Vitae.Proofs.Text.Trim

/-!
Words and the white space between them. The words of a text, one space apart, are the trimmed text
with a single space for every run of white space in it, and a text that is spaced like that already
is left alone.
-/

namespace Vitae.Text

/-! Words -/

/-- No word is empty. -/
theorem ne_nil_of_mem_wordsFrom {backwards cs word : List Char}
    (mem : word ∈ wordsFrom backwards cs) : word ≠ [] := by
  have closed {backwards word : List Char} (mem : word ∈ closeWord backwards) : word ≠ [] := by
    unfold closeWord at mem
    split at mem
    · simp at mem
    · next some =>
      obtain rfl := List.mem_singleton.mp mem
      simpa using some
  induction cs generalizing backwards with
  | nil => exact closed mem
  | cons c cs ih =>
    rw [wordsFrom] at mem
    split at mem
    · exact (List.mem_append.mp mem).elim closed ih
    · exact ih mem

/-- A word that was begun, or a character for one, makes a word. -/
theorem wordsFrom_ne_nil {backwards cs : List Char}
    (some : backwards ≠ [] ∨ ∃ c ∈ cs, isBlank c = false) : wordsFrom backwards cs ≠ [] := by
  induction cs generalizing backwards with
  | nil =>
    have begun : backwards ≠ [] := by simpa using some
    simp [wordsFrom, closeWord, begun]
  | cons c cs ih =>
    rw [wordsFrom]
    split
    · next blank =>
      rcases some with begun | ⟨d, mem, shown⟩
      · simp [closeWord, begun]
      · have later : d ∈ cs := by
          rcases List.mem_cons.mp mem with rfl | mem
          · simp [blank] at shown
          · exact mem
        exact List.append_ne_nil_of_right_ne_nil _ (ih (.inr ⟨d, later, shown⟩))
    · exact ih (.inl (by simp))

/-- White space alone makes no word. -/
theorem wordsFrom_of_blank {cs : List Char} (blank : ∀ c ∈ cs, isBlank c) (backwards : List Char) :
    wordsFrom backwards cs = closeWord backwards := by
  induction cs generalizing backwards with
  | nil => rfl
  | cons c cs ih =>
    have rest : wordsFrom [] cs = [] := ih (fun d mem => blank d (List.mem_cons_of_mem _ mem)) []
    rw [wordsFrom, if_pos (blank c List.mem_cons_self), rest, List.append_nil]

/-! Runs of white space -/

theorem trimLeft_cons_of_blank {c : Char} (blank : isBlank c) (rest : List Char) :
    trimLeft (c :: rest) = trimLeft rest :=
  List.dropWhile_cons_of_pos blank

theorem trimLeft_cons_of_shown {c : Char} (shown : isBlank c = false) (rest : List Char) :
    trimLeft (c :: rest) = c :: rest :=
  List.dropWhile_cons_of_neg (by simp [shown])

/-- A text that starts with white space. -/
def startsBlank (cs : List Char) : Bool := cs.head?.any isBlank

/-- A single space for every run of white space. Of a run only the last character leaves one. -/
def collapseBlanks : List Char → List Char
  | [] => []
  | c :: rest =>
    if isBlank c then
      if startsBlank rest then collapseBlanks rest else ' ' :: collapseBlanks rest
    else c :: collapseBlanks rest

theorem collapseBlanks_cons_of_shown {c : Char} (shown : isBlank c = false) (rest : List Char) :
    collapseBlanks (c :: rest) = c :: collapseBlanks rest := by
  rw [collapseBlanks, if_neg (by simp [shown])]

/-- White space in front of more text is one space. -/
theorem collapseBlanks_cons_of_blank {c : Char} (blank : isBlank c) (rest : List Char) :
    collapseBlanks (c :: rest) = ' ' :: collapseBlanks (trimLeft rest) := by
  induction rest generalizing c with
  | nil => simp [collapseBlanks, blank, startsBlank, trimLeft]
  | cons d rest ih =>
    cases next : isBlank d with
    | true =>
      rw [collapseBlanks, if_pos blank, if_pos (by simp [startsBlank, next]), ih next,
        trimLeft_cons_of_blank next]
    | false =>
      rw [collapseBlanks, if_pos blank, if_neg (by simp [startsBlank, next]),
        trimLeft_cons_of_shown next]

theorem trimRight_cons_of_shown {c : Char} (shown : isBlank c = false) (rest : List Char) :
    trimRight (c :: rest) = c :: trimRight rest := by
  simp only [trimRight, List.reverse_cons, List.dropWhile_append]
  split
  · next none =>
    rw [List.isEmpty_iff] at none
    simp [none, shown]
  · simp

theorem trimRight_eq_nil_iff {cs : List Char} : trimRight cs = [] ↔ ∀ c ∈ cs, isBlank c :=
  List.rdropWhile_eq_nil_iff

theorem trimRight_cons_of_some (c : Char) {rest : List Char} (some : trimRight rest ≠ []) :
    trimRight (c :: rest) = c :: trimRight rest := by
  simp only [trimRight, ne_eq, List.reverse_eq_nil_iff] at some
  simp [trimRight, List.dropWhile_append, some]

/-- The two ends are trimmed in either order. -/
theorem trimLeft_trimRight (cs : List Char) : trimLeft (trimRight cs) = trimChars cs := by
  induction cs with
  | nil => rfl
  | cons c rest ih =>
    cases first : isBlank c with
    | false =>
      rw [trimChars, trimLeft_cons_of_shown first, trimRight_cons_of_shown first,
        trimLeft_cons_of_shown first]
    | true =>
      rw [trimChars, trimLeft_cons_of_blank first, ← trimChars, ← ih]
      by_cases none : trimRight rest = []
      · have all : trimRight (c :: rest) = [] := by
          rw [trimRight_eq_nil_iff] at none ⊢
          exact List.forall_mem_cons.mpr ⟨first, none⟩
        rw [all, none]
      · rw [trimRight_cons_of_some c none, trimLeft_cons_of_blank first]

/-- A word that was begun goes on up to the first white space, and behind each run of white space
but the last there is another word. -/
theorem intercalate_wordsFrom (cs : List Char) :
    (∀ backwards ≠ [], [' '].intercalate (wordsFrom backwards cs)
        = backwards.reverse ++ collapseBlanks (trimRight cs))
      ∧ [' '].intercalate (wordsFrom [] cs) = collapseBlanks (trimChars cs) := by
  induction cs with
  | nil =>
    refine ⟨fun backwards begun => ?_, rfl⟩
    simp [wordsFrom, closeWord, begun, trimRight, collapseBlanks]
  | cons c rest ih =>
    obtain ⟨within, between⟩ := ih
    cases first : isBlank c with
    | false =>
      have go (backwards : List Char) : [' '].intercalate (wordsFrom backwards (c :: rest))
          = backwards.reverse ++ collapseBlanks (trimRight (c :: rest)) := by
        rw [wordsFrom, if_neg (by simp [first]), within _ (by simp), trimRight_cons_of_shown first,
          collapseBlanks_cons_of_shown first]
        simp
      refine ⟨fun backwards _ => go backwards, ?_⟩
      rw [go, trimChars, trimLeft_cons_of_shown first]
      rfl
    | true =>
      refine ⟨fun backwards begun => ?_, ?_⟩
      · have close : closeWord backwards = [backwards.reverse] := by simp [closeWord, begun]
        rw [wordsFrom, if_pos first, close, List.singleton_append]
        by_cases none : trimRight rest = []
        · -- only white space follows, so this is the last word
          have blank := trimRight_eq_nil_iff.mp none
          have all : trimRight (c :: rest) = [] :=
            trimRight_eq_nil_iff.mpr (List.forall_mem_cons.mpr ⟨first, blank⟩)
          rw [wordsFrom_of_blank blank, all]
          simp [closeWord, collapseBlanks]
        · have more : wordsFrom [] rest ≠ [] := by
            rw [trimRight_eq_nil_iff] at none
            exact wordsFrom_ne_nil (.inr (by simpa using none))
          rw [List.intercalate_cons_of_ne_nil more, between, trimRight_cons_of_some c none,
            collapseBlanks_cons_of_blank first, trimLeft_trimRight]
          simp
      · rw [wordsFrom, if_pos first, trimChars, trimLeft_cons_of_blank first]
        exact between

theorem intercalate_wordsOf (cs : List Char) :
    [' '].intercalate (wordsOf cs) = collapseBlanks (trimChars cs) :=
  (intercalate_wordsFrom cs).2

/-! Texts that are spaced -/

/-- A text with no white space at its ends and none but single spaces inside. -/
structure IsSpaced (cs : List Char) : Prop where
  trimmed : IsTrimmed cs
  space : ∀ c ∈ cs, isBlank c → c = ' '
  apart : cs.IsChain fun a b => ¬ (isBlank a ∧ isBlank b)

/-- What is spaced already has nothing to collapse. -/
theorem collapseBlanks_of_apart {cs : List Char} (space : ∀ c ∈ cs, isBlank c → c = ' ')
    (apart : cs.IsChain fun a b => ¬ (isBlank a ∧ isBlank b)) : collapseBlanks cs = cs := by
  induction cs with
  | nil => rfl
  | cons c rest ih =>
    obtain ⟨next, below⟩ := List.isChain_cons.mp apart
    have same := ih (fun d mem => space d (List.mem_cons_of_mem _ mem)) below
    cases first : isBlank c with
    | false => rw [collapseBlanks_cons_of_shown first, same]
    | true =>
      have alone : startsBlank rest = false := by
        rw [startsBlank, Option.any_eq_false]
        intro d mem
        simpa [first] using next d mem
      obtain rfl := space c List.mem_cons_self first
      rw [collapseBlanks, if_pos first, alone, same]
      rfl

theorem IsSpaced.collapse_eq {cs : List Char} (h : IsSpaced cs) :
    collapseBlanks (trimChars cs) = cs := by
  rw [h.trimmed.trimChars_eq, collapseBlanks_of_apart h.space h.apart]

theorem startsBlank_collapseBlanks (cs : List Char) :
    startsBlank (collapseBlanks cs) = startsBlank cs := by
  cases cs with
  | nil => rfl
  | cons c rest =>
    cases first : isBlank c with
    | false => simp [collapseBlanks_cons_of_shown first, startsBlank]
    | true =>
      have space : isBlank ' ' = true := by decide
      simp [collapseBlanks_cons_of_blank first, startsBlank, first, space]

theorem space_collapseBlanks (cs : List Char) :
    ∀ c ∈ collapseBlanks cs, isBlank c → c = ' ' := by
  induction cs with
  | nil => simp [collapseBlanks]
  | cons c rest ih =>
    rw [collapseBlanks]
    split
    · split
      · exact ih
      · exact List.forall_mem_cons.mpr ⟨fun _ => rfl, ih⟩
    · next shown => exact List.forall_mem_cons.mpr ⟨fun blank => absurd blank shown, ih⟩

theorem apart_collapseBlanks (cs : List Char) :
    (collapseBlanks cs).IsChain fun a b => ¬ (isBlank a ∧ isBlank b) := by
  induction cs with
  | nil => exact .nil
  | cons c rest ih =>
    rw [collapseBlanks]
    split
    · split
      · exact ih
      · next alone =>
        refine List.isChain_cons.mpr ⟨fun d mem both => alone ?_, ih⟩
        rw [← startsBlank_collapseBlanks, startsBlank, Option.any_eq_true]
        exact ⟨d, mem, both.2⟩
    · next shown => exact List.isChain_cons.mpr ⟨fun _ _ both => shown both.1, ih⟩

theorem collapseBlanks_ne_nil {cs : List Char} (some : cs ≠ []) : collapseBlanks cs ≠ [] := by
  obtain ⟨c, rest, rfl⟩ := List.exists_cons_of_ne_nil some
  cases first : isBlank c with
  | false => simp [collapseBlanks_cons_of_shown first]
  | true => simp [collapseBlanks_cons_of_blank first]

/-- A text that is collapsed ends in white space only if it did before. -/
theorem stop_collapseBlanks {cs : List Char} (stop : ∀ c ∈ cs.getLast?, isBlank c = false) :
    ∀ c ∈ (collapseBlanks cs).getLast?, isBlank c = false := by
  induction cs with
  | nil => simp [collapseBlanks]
  | cons c rest ih =>
    by_cases last : rest = []
    · obtain rfl := last
      have shown : isBlank c = false := stop c rfl
      rwa [collapseBlanks_cons_of_shown shown]
    · rw [List.getLast?_cons_of_ne_nil last] at stop
      have below := ih stop
      have some := collapseBlanks_ne_nil last
      rw [collapseBlanks]
      split
      · split
        · exact below
        · rwa [List.getLast?_cons_of_ne_nil some]
      · rwa [List.getLast?_cons_of_ne_nil some]

/-- Trimmed and collapsed, every text is spaced. -/
theorem isSpaced_collapseBlanks (cs : List Char) : IsSpaced (collapseBlanks (trimChars cs)) where
  trimmed := by
    have ends := isTrimmed_trimChars cs
    refine ⟨fun c mem => ?_, stop_collapseBlanks ends.stop⟩
    have start : startsBlank (trimChars cs) = false := by
      rw [startsBlank, Option.any_eq_false]
      intro d mem
      simp [ends.start d mem]
    rw [← startsBlank_collapseBlanks, startsBlank, Option.any_eq_false] at start
    simpa using start c mem
  space := space_collapseBlanks _
  apart := apart_collapseBlanks _

end Vitae.Text
