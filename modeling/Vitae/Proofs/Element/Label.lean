import Vitae.Document.Assembly
import Vitae.Proofs.Content
import Vitae.Proofs.Text.Words

/-!
Labels say something whenever their text does. They are short and spaced, and a text that is so
already is its own label.
-/

namespace Vitae

/-! The form of labels -/

/-- A text that fits in a label, with no white space but single spaces between words. -/
structure IsLabel (cs : List Char) : Prop where
  spaced : Text.IsSpaced cs
  fits : cs.length ≤ labelLimit

/-- A label is the trimmed and collapsed text, shortened if it has to be. -/
theorem labelChars_eq (cs : List Char) :
    labelChars cs = shorten labelLimit (Text.collapseBlanks (Text.trimChars cs)) := by
  rw [labelChars, joinWords, Text.intercalate_wordsOf]

theorem shorten_of_fits {cs : List Char} (fits : cs.length ≤ labelLimit) :
    shorten labelLimit cs = cs := if_pos fits

theorem length_shorten_le (cs : List Char) : (shorten labelLimit cs).length ≤ labelLimit := by
  unfold shorten
  split
  · next fits => exact fits
  · simp only [labelLimit, List.length_append, List.length_take, List.length_singleton]
    omega

/-- What a text is cut at may be a space, but then the ellipsis stands behind it. -/
theorem isSpaced_shorten {cs : List Char} (h : Text.IsSpaced cs) :
    Text.IsSpaced (shorten labelLimit cs) := by
  have shown : Text.isBlank ellipsis = false := by decide
  unfold shorten
  split
  · exact h
  · next long =>
    obtain ⟨c, rest, rfl⟩ := List.exists_cons_of_length_pos (by omega : 0 < cs.length)
    refine ⟨⟨?_, ?_⟩, ?_, ?_⟩
    · simpa [labelLimit] using h.trimmed.start
    · simpa using shown
    · intro d mem blank
      rcases List.mem_append.mp mem with mem | mem
      · exact h.space d (List.mem_of_mem_take mem) blank
      · obtain rfl := List.mem_singleton.mp mem
        simp [shown] at blank
    · refine List.isChain_append.mpr ⟨h.apart.take _, .singleton _, ?_⟩
      rintro _ _ d mem ⟨-, blank⟩
      obtain rfl : ellipsis = d := by simpa using mem
      simp [shown] at blank

theorem isLabel_labelChars (cs : List Char) : IsLabel (labelChars cs) := by
  rw [labelChars_eq]
  exact ⟨isSpaced_shorten (Text.isSpaced_collapseBlanks cs), length_shorten_le _⟩

theorem labelChars_of_isLabel {cs : List Char} (h : IsLabel cs) : labelChars cs = cs := by
  rw [labelChars_eq, h.spaced.collapse_eq, shorten_of_fits h.fits]

/-- Labels are the texts that are left alone. -/
theorem isLabel_iff {cs : List Char} : IsLabel cs ↔ labelChars cs = cs :=
  ⟨labelChars_of_isLabel, fun same => same ▸ isLabel_labelChars cs⟩

instance (cs : List Char) : Decidable (IsLabel cs) := decidable_of_iff _ isLabel_iff.symm

theorem isLabel_labelOf (s : String) : IsLabel (labelOf s).toList := by
  rw [labelOf, String.toList_ofList]
  exact isLabel_labelChars _

theorem labelOf_labelOf (s : String) : labelOf (labelOf s) = labelOf s := by
  rw [labelOf, labelChars_of_isLabel (isLabel_labelOf s), String.ofList_toList]

/-! Labels that say something -/

theorem shorten_ne_nil {cs : List Char} (some : cs ≠ []) : shorten labelLimit cs ≠ [] := by
  unfold shorten
  split
  · exact some
  · simp

theorem Says.labelOf {s : String} (h : Says s) : (labelOf s).isEmpty = false := by
  have shown : ∃ c ∈ s.toList, Text.isBlank c = false := by
    simpa [Says, Text.isBlankText] using h
  have some : Text.wordsFrom [] s.toList ≠ [] := Text.wordsFrom_ne_nil (.inr shown)
  obtain ⟨word, words, split⟩ := List.exists_cons_of_ne_nil some
  have inside : word ∈ Text.wordsFrom [] s.toList := by simp [split]
  have first : word ≠ [] := Text.ne_nil_of_mem_wordsFrom inside
  have joined : joinWords (Text.wordsOf s.toList) ≠ [] := by
    rw [Text.wordsOf, split, joinWords]
    cases words with
    | nil => simpa using first
    | cons next words =>
      rw [List.intercalate_cons_cons, List.append_assoc]
      exact List.append_ne_nil_of_left_ne_nil first _
  rw [Bool.eq_false_iff, ne_eq, String.isEmpty_iff, Vitae.labelOf, String.ofList_eq_empty_iff]
  exact shorten_ne_nil joined

/-! Texts put together -/

theorem says_append_left {s : String} (h : Says s) (t : String) : Says (s ++ t) := by
  unfold Says Text.isBlankText at *
  rw [String.toList_append, List.all_append, h, Bool.false_and]

theorem says_intercalate (separator : String) {texts : List String} (given : texts ≠ [])
    (each : ∀ s ∈ texts, Says s) : Says (separator.intercalate texts) := by
  obtain ⟨first, rest, rfl⟩ := List.exists_cons_of_ne_nil given
  have said := each first (by simp)
  cases rest with
  | nil => simpa using said
  | cons next rest =>
    rw [String.intercalate_cons_cons]
    exact says_append_left (says_append_left said _) _

/-- Texts that are empty or say something do so together. -/
theorem isEmpty_or_says_joinPresent (separator : String) {texts : List String}
    (each : ∀ s ∈ texts, s.isEmpty ∨ Says s) :
    (joinPresent separator texts).isEmpty ∨ Says (joinPresent separator texts) := by
  unfold joinPresent
  by_cases none : texts.filter (fun text => !text.isEmpty) = []
  · left
    rw [none]
    rfl
  · right
    apply says_intercalate separator none
    intro s mem
    obtain ⟨inside, some⟩ := List.mem_filter.mp mem
    exact (each s inside).resolve_left (by simpa using some)

theorem says_orElseText {text other : String} (given : text.isEmpty ∨ Says text)
    (fallback : Says other) : Says (orElseText text other) := by
  unfold orElseText
  split
  · exact fallback
  · next some => exact given.resolve_left some

end Vitae
