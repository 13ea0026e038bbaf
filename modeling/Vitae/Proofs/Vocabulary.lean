import Vitae.Style.Choices

/-!
Words and the values they stand for. A word that is read names the value it is read as, and the
choices of a style have words of their own, so that each is read back from its word.
-/

namespace Vitae

/-- A vocabulary in which every value is there and no two have one word. -/
class LawfulVocabulary (α : Type) [Vocabulary α] : Prop where
  ofWord?_word (a : α) : Vocabulary.ofWord? (Vocabulary.word a) = some a

namespace Vocabulary

variable {α : Type} [Vocabulary α]

theorem word_of_ofWord? {s : String} {a : α} (h : ofWord? s = some a) : word a = s := by
  simpa using List.find?_some h

/-- What is read as a value is its word. -/
theorem eq_of_read {field : String} {value : Json} {a : α} (h : read field value = .ok a) :
    value = .string (word a) := by
  unfold read at h
  split at h
  · next found =>
    obtain rfl := Except.ok.inj h
    unfold ofJson? at found
    split at found
    · rw [word_of_ofWord? found]
    · cases found
  · cases h

theorem word_injective [LawfulVocabulary α] {a b : α} (same : word a = word b) : a = b := by
  have found := LawfulVocabulary.ofWord?_word a
  rw [same, LawfulVocabulary.ofWord?_word] at found
  exact (Option.some.inj found).symm

theorem read_word [LawfulVocabulary α] (field : String) (a : α) :
    read field (.string (word a)) = .ok a := by
  rw [read, ofJson?, LawfulVocabulary.ofWord?_word]

end Vocabulary

instance : LawfulVocabulary Theme := ⟨fun a => by cases a <;> decide⟩

instance : LawfulVocabulary FontPairing := ⟨fun a => by cases a <;> decide⟩

instance : LawfulVocabulary TypeScale := ⟨fun a => by cases a <;> decide⟩

instance : LawfulVocabulary SpacingScale := ⟨fun a => by cases a <;> decide⟩

instance : LawfulVocabulary HeaderVariant := ⟨fun a => by cases a <;> decide⟩

instance : LawfulVocabulary SectionStyle := ⟨fun a => by cases a <;> decide⟩

instance : LawfulVocabulary SkillsDisplay := ⟨fun a => by cases a <;> decide⟩

instance : LawfulVocabulary DecorationIntensity := ⟨fun a => by cases a <;> decide⟩

instance : LawfulVocabulary DecorationTheme := ⟨fun a => by cases a <;> decide⟩

instance : LawfulVocabulary ContactLayout := ⟨fun a => by cases a <;> decide⟩

instance : LawfulVocabulary HeaderGradient := ⟨fun a => by cases a <;> decide⟩

instance : LawfulVocabulary PageLayout := ⟨fun a => by cases a <;> decide⟩

instance : LawfulVocabulary ExperienceFormat := ⟨fun a => by cases a <;> decide⟩

instance : LawfulVocabulary SectionKind := ⟨fun a => by cases a <;> decide⟩

instance : LawfulVocabulary StyleZone := ⟨fun a => by cases a <;> decide⟩

end Vitae
