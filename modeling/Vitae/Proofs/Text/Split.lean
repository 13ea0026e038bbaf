import Vitae.Text.Blank
import Vitae.Text.Split

/-!
Joined texts taken apart. Words that are joined by spaces and pieces that are joined by a mark are
found again, and the lines of texts that are joined by line feeds are the lines of each text.
-/

namespace Vitae.Text

/-- A text without white space, and not empty. -/
def isWord (cs : List Char) : Bool := !cs.isEmpty && cs.all fun c => !isBlank c

theorem wordsFrom_append (backwards : List Char) {word : List Char}
    (h : ∀ c ∈ word, isBlank c = false) (rest : List Char) :
    wordsFrom backwards (word ++ rest) = wordsFrom (word.reverse ++ backwards) rest := by
  induction word generalizing backwards with
  | nil => rfl
  | cons c word ih =>
    rw [List.cons_append, wordsFrom, h c (by simp), if_neg (by simp),
      ih _ fun d hd => h d (List.mem_cons_of_mem _ hd)]
    simp

theorem wordsOf_append_word {word : List Char} (h : isWord word) (rest : List Char) :
    wordsOf (word ++ ' ' :: rest) = word :: wordsOf rest := by
  simp only [isWord, Bool.and_eq_true, Bool.not_eq_true', List.all_eq_true] at h
  obtain ⟨some, each⟩ := h
  have space : isBlank ' ' = true := by decide
  rw [wordsOf, wordsFrom_append [] each, wordsFrom, if_pos space, closeWord,
    if_neg (by simpa using some)]
  simp [wordsOf]

theorem wordsOf_word {word : List Char} (h : isWord word) : wordsOf word = [word] := by
  simp only [isWord, Bool.and_eq_true, Bool.not_eq_true', List.all_eq_true] at h
  obtain ⟨some, each⟩ := h
  have whole := wordsFrom_append [] each []
  simp only [List.append_nil] at whole
  rw [wordsOf, whole, wordsFrom, closeWord, if_neg (by simpa using some), List.reverse_reverse]

/-- Words one space apart are the words of that text. -/
theorem wordsOf_intercalate {words : List (List Char)} (h : ∀ word ∈ words, isWord word) :
    wordsOf ([' '].intercalate words) = words := by
  induction words with
  | nil => rfl
  | cons word words ih =>
    have first := h word (by simp)
    cases words with
    | nil => simpa using wordsOf_word first
    | cons next words =>
      rw [List.intercalate_cons_cons, List.append_assoc, List.singleton_append,
        wordsOf_append_word first, ih fun w mem => h w (List.mem_cons_of_mem _ mem)]

theorem isWord_of_mem_wordsFrom {backwards cs word : List Char}
    (begun : ∀ c ∈ backwards, isBlank c = false) (mem : word ∈ wordsFrom backwards cs) :
    isWord word := by
  have closed {backwards : List Char} (begun : ∀ c ∈ backwards, isBlank c = false)
      (mem : word ∈ closeWord backwards) : isWord word := by
    unfold closeWord at mem
    split at mem
    · cases mem
    · next some =>
      obtain rfl := List.mem_singleton.mp mem
      simpa [isWord, some] using begun
  induction cs generalizing backwards with
  | nil => exact closed begun mem
  | cons c cs ih =>
    rw [wordsFrom] at mem
    split at mem
    · rcases List.mem_append.mp mem with mem | mem
      · exact closed begun mem
      · exact ih (by simp) mem
    · next solid => exact ih (by simpa [solid] using begun) mem

/-- Words that were put one space apart are told apart as the same words. -/
theorem words_intercalate_words (s : String) : words (" ".intercalate (words s)) = words s := by
  have each : ∀ word ∈ wordsOf s.toList, isWord word :=
    fun word mem => isWord_of_mem_wordsFrom (by simp) mem
  rw [words, String.toList_intercalate, words, List.map_map]
  simp only [Function.comp_def, String.toList_ofList, List.map_id', String.reduceToList,
    wordsOf_intercalate each]

theorem splitChars_of_not_mem {mark : Char} {piece : List Char} (h : mark ∉ piece) :
    splitChars mark piece = [piece] := by
  induction piece with
  | nil => rfl
  | cons c piece ih =>
    simp only [List.mem_cons, not_or] at h
    rw [splitChars, if_neg (Ne.symm h.1), ih h.2]

theorem splitChars_append {mark : Char} {piece : List Char} (h : mark ∉ piece) (rest : List Char) :
    splitChars mark (piece ++ mark :: rest) = piece :: splitChars mark rest := by
  induction piece with
  | nil => simp [splitChars]
  | cons c piece ih =>
    simp only [List.mem_cons, not_or] at h
    rw [List.cons_append, splitChars, if_neg (Ne.symm h.1), ih h.2]

/-- Pieces that a mark joins are the pieces that it splits the text into. -/
theorem splitChars_intercalate {mark : Char} {pieces : List (List Char)} (some : pieces ≠ [])
    (h : ∀ piece ∈ pieces, mark ∉ piece) :
    splitChars mark ([mark].intercalate pieces) = pieces := by
  induction pieces with
  | nil => exact absurd rfl some
  | cons piece pieces ih =>
    have first := h piece (by simp)
    cases pieces with
    | nil => simpa using splitChars_of_not_mem first
    | cons next pieces =>
      rw [List.intercalate_cons_cons, List.append_assoc, List.singleton_append,
        splitChars_append first, ih (by simp) fun p mem => h p (List.mem_cons_of_mem _ mem)]

/-! Lines -/

/-- Lines without the white space around them, and only those of which something is left. -/
def shown (lines : List (List Char)) : List (List Char) :=
  (lines.map trimChars).filter fun line => !line.isEmpty

theorem shown_append (lines others : List (List Char)) :
    shown (lines ++ others) = shown lines ++ shown others := by
  simp [shown]

theorem shown_closeWord (backwards : List Char) :
    shown (closeWord backwards) = shown [backwards.reverse] := by
  cases backwards with
  | nil => rfl
  | cons c backwards => rfl

theorem shown_cons (line : List Char) (lines : List (List Char)) :
    shown (line :: lines) = shown [line] ++ shown lines := shown_append [line] lines

theorem linesFrom_break {c : Char} (h : isLineBreak c) (backwards : List Char) {rest : List Char}
    (whole : c ≠ '\r' ∨ rest.head? ≠ some '\n') :
    linesFrom backwards (c :: rest) = backwards.reverse :: linesFrom [] rest := by
  rw [linesFrom, if_pos h]
  rintro rest' rfl rfl
  simp at whole

/-- A line feed parts what is before it from what is behind it, even if it only completes a line
end. -/
theorem shown_linesFrom_append (backwards cs rest : List Char) :
    shown (linesFrom backwards (cs ++ '\n' :: rest))
      = shown (linesFrom backwards cs) ++ shown (linesFrom [] rest) := by
  fun_induction linesFrom backwards cs with
  | case1 backwards =>
    rw [List.nil_append, linesFrom_break (by decide) backwards (.inl (by decide)), shown_cons,
      shown_closeWord]
  | case2 backwards cs ih =>
    rw [List.cons_append, List.cons_append, linesFrom, shown_cons, ih,
      shown_cons backwards.reverse (linesFrom [] cs), List.append_assoc]
  | case3 backwards c cs whole h ih =>
    cases cs with
    | nil =>
      by_cases same : c = '\r'
      · -- the line feed only completes the line end, so no empty line is between the two
        subst same
        simp [linesFrom, closeWord, shown_cons backwards.reverse (linesFrom [] rest)]
      · rw [List.cons_append, linesFrom_break h backwards (.inl same), shown_cons, ih,
          shown_cons backwards.reverse (linesFrom [] []), List.append_assoc]
    | cons d cs =>
      have before : c ≠ '\r' ∨ (d :: cs ++ '\n' :: rest).head? ≠ some '\n' := by
        by_cases same : c = '\r'
        · right
          rintro first
          exact whole cs same (by simpa using first)
        · exact .inl same
      rw [List.cons_append, linesFrom_break h backwards before, shown_cons, ih,
        shown_cons backwards.reverse (linesFrom [] (d :: cs)), List.append_assoc]
  | case4 backwards c cs whole h ih =>
    have other : c ≠ '\r' := by rintro rfl; exact h (by decide)
    rw [List.cons_append, linesFrom, if_neg h, ih]
    rintro rest' same
    exact absurd same other

/-- The lines of a text that a reader of it sees. -/
def shownLines (s : String) : List String := ((lines s).map trim).filter fun line => !line.isEmpty

theorem shownLines_eq (s : String) :
    shownLines s = (shown (linesOf s.toList)).map String.ofList := by
  unfold shownLines lines shown
  induction linesOf s.toList with
  | nil => rfl
  | cons line lines ih =>
    have empty : (trim (String.ofList line)).isEmpty = (trimChars line).isEmpty := by
      rw [trim, String.toList_ofList, Bool.eq_iff_iff, String.isEmpty_iff, List.isEmpty_iff,
        String.ofList_eq_empty_iff]
    simp only [List.map_cons, List.filter_cons, empty, ih]
    split <;> simp [trim]

/-- Texts on lines of their own show their lines one after another. -/
theorem shownLines_intercalate (texts : List String) :
    shownLines ("\n".intercalate texts) = texts.flatMap shownLines := by
  induction texts with
  | nil => rfl
  | cons text texts ih =>
    cases texts with
    | nil => simp
    | cons next texts =>
      have parted := shown_linesFrom_append [] text.toList
        ("\n".intercalate (next :: texts)).toList
      have joined : ("\n".intercalate (text :: next :: texts)).toList
          = text.toList ++ '\n' :: ("\n".intercalate (next :: texts)).toList := by
        simp [String.intercalate_cons_cons]
      rw [List.flatMap_cons, ← ih, shownLines_eq, shownLines_eq, shownLines_eq, joined, linesOf,
        parted, List.map_append]
      rfl

end Vitae.Text
