import Vitae.Content
import Vitae.Proofs.Fault
import Vitae.Proofs.Text.Trim

/-!
What reading promises of a content: where a text stands for something, there is a word in it.
-/

namespace Vitae

/-- A text with more than white space in it. -/
def Says (s : String) : Prop := Text.isBlankText s = false

instance (s : String) : Decidable (Says s) :=
  inferInstanceAs (Decidable (Text.isBlankText s = false))

theorem Says.isEmpty {s : String} (h : Says s) : s.isEmpty = false := by
  rw [Bool.eq_false_iff]
  intro empty
  obtain rfl := String.isEmpty_iff.mp empty
  simp [Says, Text.isBlankText] at h

theorem says_trim {s : String} (some : (Text.trim s).isEmpty = false) : Says (Text.trim s) := by
  rw [Says, Bool.eq_false_iff]
  intro blank
  have gone : Text.trimLeft (Text.trim s).toList = [] := by
    rw [Text.isBlankText, List.all_eq_true] at blank
    simpa [Text.trimLeft] using blank
  rw [Text.trim, String.toList_ofList, Text.trimLeft_trimChars] at gone
  simp [Text.trim, gone] at some

theorem Text.unlessEmpty_eq_self {text : Option String} (present : ∀ s ∈ text, s.isEmpty = false) :
    unlessEmpty text = text := by
  cases text with
  | none => rfl
  | some s => simp [unlessEmpty, present s rfl]

theorem Text.unlessEmpty_eq_some_iff {text : Option String} {s : String} :
    unlessEmpty text = some s ↔ text = some s ∧ s.isEmpty = false := by
  simp [unlessEmpty, Option.filter_eq_some_iff]

namespace Content

/-- A content whose optional texts and list items say something, and the others too unless they are
empty. -/
structure IsSpoken (c : Content) : Prop where
  headline : ∀ s ∈ c.headline, Says s
  summary : ∀ s ∈ c.summary, Says s
  positions : ∀ e ∈ c.experience, ∀ s ∈ [e.title, e.company, e.period], s.isEmpty ∨ Says s
  highlights : ∀ e ∈ c.experience, ∀ s ∈ e.highlights, Says s
  locations : ∀ e ∈ c.experience, ∀ s ∈ e.location, Says s
  studies : ∀ e ∈ c.education, ∀ s ∈ [e.degree, e.institution, e.year], s.isEmpty ∨ Says s
  details : ∀ e ∈ c.education, ∀ s ∈ e.details, Says s
  technical : ∀ s ∈ c.skills.technical, Says s
  soft : ∀ s ∈ c.skills.soft, Says s
  languages : ∀ l ∈ c.languages, ∀ s ∈ [l.name, l.level], s.isEmpty ∨ Says s
  certifications : ∀ s ∈ c.certifications, Says s
  contact : ∀ contact ∈ c.contact, ∀ field, ∀ s ∈ contact.field field, Says s
  avatar : ∀ s ∈ c.avatarUrl, Says s

/-- A content whose optional texts and list items are not empty. -/
structure IsTidy (c : Content) : Prop where
  headline : ∀ s ∈ c.headline, s.isEmpty = false
  summary : ∀ s ∈ c.summary, s.isEmpty = false
  highlights : ∀ e ∈ c.experience, ∀ s ∈ e.highlights, s.isEmpty = false
  locations : ∀ e ∈ c.experience, ∀ s ∈ e.location, s.isEmpty = false
  details : ∀ e ∈ c.education, ∀ s ∈ e.details, s.isEmpty = false
  certifications : ∀ s ∈ c.certifications, s.isEmpty = false
  contact : ∀ contact ∈ c.contact, ∀ field, ∀ s ∈ contact.field field, s.isEmpty = false
  avatar : ∀ s ∈ c.avatarUrl, s.isEmpty = false

theorem IsSpoken.isTidy {c : Content} (h : c.IsSpoken) : c.IsTidy where
  headline s mem := (h.headline s mem).isEmpty
  summary s mem := (h.summary s mem).isEmpty
  highlights e inside s mem := (h.highlights e inside s mem).isEmpty
  locations e inside s mem := (h.locations e inside s mem).isEmpty
  details e inside s mem := (h.details e inside s mem).isEmpty
  certifications s mem := (h.certifications s mem).isEmpty
  contact c given field s mem := (h.contact c given field s mem).isEmpty
  avatar s mem := (h.avatar s mem).isEmpty

theorem says_of_mem_textOf {value : Json} {s : String} (h : s ∈ textOf value) : Says s := by
  have present (text : String) (mem : s ∈ if (Text.trim text).isEmpty then none
      else some (Text.trim text)) : Says s := by
    split at mem
    · simp at mem
    · next some =>
      obtain rfl : Text.trim text = s := by simpa using mem
      exact says_trim (by simpa using some)
  unfold textOf at h
  split at h
  · simp at h
  · exact present _ h

theorem says_of_mem_textIn {members : Members} {key s : String} (h : s ∈ textIn members key) :
    Says s := says_of_mem_textOf h

theorem says_of_mem_filterMap {values : List Json} {s : String}
    (h : s ∈ values.filterMap textOf) : Says s := by
  obtain ⟨value, -, same⟩ := List.mem_filterMap.mp h
  have mem : s ∈ textOf value := same
  exact says_of_mem_textOf mem

/-- Every text of a list of texts says something. -/
theorem says_of_textsIn {members : Members} {key : String} {texts : List String}
    (h : textsIn members key = .ok texts) : ∀ s ∈ texts, Says s := by
  intro s mem
  unfold textsIn at h
  split at h
  · obtain rfl := Except.ok.inj h
    exact says_of_mem_filterMap mem
  · obtain ⟨values, -, rfl⟩ := Checked.map_eq_ok.mp h
    exact says_of_mem_filterMap mem

theorem isEmpty_or_says_getD {value : Json} :
    ((textOf value).getD "").isEmpty ∨ Says ((textOf value).getD "") := by
  cases given : textOf value with
  | none => exact .inl rfl
  | some s => exact .inr (says_of_mem_textOf given)

theorem spoken_experience {value : Json} {e : Experience} (h : readExperience value = .ok e) :
    (∀ s ∈ [e.title, e.company, e.period], s.isEmpty ∨ Says s)
      ∧ (∀ s ∈ e.highlights, Says s) ∧ ∀ s ∈ e.location, Says s := by
  obtain ⟨members, -, h⟩ := Checked.bind_eq_ok.mp h
  obtain ⟨highlights, read, h⟩ := Checked.bind_eq_ok.mp h
  obtain rfl := Except.ok.inj h
  refine ⟨?_, says_of_textsIn read, fun s mem => says_of_mem_textIn mem⟩
  simp only [List.forall_mem_cons, List.not_mem_nil, false_implies, implies_true, and_true]
  exact ⟨isEmpty_or_says_getD, isEmpty_or_says_getD, isEmpty_or_says_getD⟩

theorem spoken_education {value : Json} {e : Education} (h : readEducation value = .ok e) :
    (∀ s ∈ [e.degree, e.institution, e.year], s.isEmpty ∨ Says s) ∧ ∀ s ∈ e.details, Says s := by
  obtain ⟨members, -, h⟩ := Checked.bind_eq_ok.mp h
  obtain rfl := Except.ok.inj h
  refine ⟨?_, fun s mem => says_of_mem_textIn mem⟩
  simp only [List.forall_mem_cons, List.not_mem_nil, false_implies, implies_true, and_true]
  exact ⟨isEmpty_or_says_getD, isEmpty_or_says_getD, isEmpty_or_says_getD⟩

theorem spoken_language {value : Json} {l : SpokenLanguage} (h : readLanguage value = .ok l) :
    ∀ s ∈ [l.name, l.level], s.isEmpty ∨ Says s := by
  obtain ⟨members, -, h⟩ := Checked.bind_eq_ok.mp h
  obtain rfl := Except.ok.inj h
  simp only [List.forall_mem_cons, List.not_mem_nil, false_implies, implies_true, and_true]
  exact ⟨isEmpty_or_says_getD, isEmpty_or_says_getD⟩

theorem spoken_skills {value : Json} {skills : Skills} (h : readSkills value = .ok skills) :
    (∀ s ∈ skills.technical, Says s) ∧ ∀ s ∈ skills.soft, Says s := by
  unfold readSkills at h
  split at h
  · obtain rfl := Except.ok.inj h
    simp
  · obtain ⟨members, -, h⟩ := Checked.bind_eq_ok.mp h
    obtain ⟨technical, technicalRead, h⟩ := Checked.bind_eq_ok.mp h
    obtain ⟨soft, softRead, h⟩ := Checked.bind_eq_ok.mp h
    obtain rfl := Except.ok.inj h
    exact ⟨says_of_textsIn technicalRead, says_of_textsIn softRead⟩

theorem spoken_contact {value : Json} {contact : Option Contact}
    (h : readContact value = .ok contact) :
    ∀ c ∈ contact, ∀ field, ∀ s ∈ c.field field, Says s := by
  unfold readContact at h
  split at h
  · obtain rfl := Except.ok.inj h
    simp
  · obtain ⟨members, -, h⟩ := Checked.bind_eq_ok.mp h
    obtain rfl := Except.ok.inj h
    rintro c ⟨⟩ field s mem
    cases field <;> exact says_of_mem_textIn mem

/-- Whatever value a content is read from, its texts say something. -/
theorem isSpoken_ofJson {value : Json} {content : Content} (h : ofJson value = .ok content) :
    content.IsSpoken := by
  obtain ⟨members, -, h⟩ := Checked.bind_eq_ok.mp h
  obtain ⟨experienceItems, -, h⟩ := Checked.bind_eq_ok.mp h
  obtain ⟨experience, experienceRead, h⟩ := Checked.bind_eq_ok.mp h
  obtain ⟨educationItems, -, h⟩ := Checked.bind_eq_ok.mp h
  obtain ⟨education, educationRead, h⟩ := Checked.bind_eq_ok.mp h
  obtain ⟨skills, skillsRead, h⟩ := Checked.bind_eq_ok.mp h
  obtain ⟨languageItems, -, h⟩ := Checked.bind_eq_ok.mp h
  obtain ⟨languages, languagesRead, h⟩ := Checked.bind_eq_ok.mp h
  obtain ⟨certifications, certificationsRead, h⟩ := Checked.bind_eq_ok.mp h
  obtain ⟨contact, contactRead, h⟩ := Checked.bind_eq_ok.mp h
  obtain rfl := Except.ok.inj h
  have positions (e : Experience) (mem : e ∈ experience) :
      (∀ s ∈ [e.title, e.company, e.period], s.isEmpty ∨ Says s)
        ∧ (∀ s ∈ e.highlights, Says s) ∧ ∀ s ∈ e.location, Says s := by
    obtain ⟨item, -, read⟩ := Checked.exists_of_mem_mapM experienceRead mem
    exact spoken_experience read
  have studies (e : Education) (mem : e ∈ education) :
      (∀ s ∈ [e.degree, e.institution, e.year], s.isEmpty ∨ Says s)
        ∧ ∀ s ∈ e.details, Says s := by
    obtain ⟨item, -, read⟩ := Checked.exists_of_mem_mapM educationRead mem
    exact spoken_education read
  have spoken (l : SpokenLanguage) (mem : l ∈ languages) :
      ∀ s ∈ [l.name, l.level], s.isEmpty ∨ Says s := by
    obtain ⟨item, -, read⟩ := Checked.exists_of_mem_mapM languagesRead mem
    exact spoken_language read
  exact {
    headline := fun s mem => says_of_mem_textIn mem
    summary := fun s mem => says_of_mem_textIn mem
    positions := fun e mem => (positions e mem).1
    highlights := fun e mem => (positions e mem).2.1
    locations := fun e mem => (positions e mem).2.2
    studies := fun e mem => (studies e mem).1
    details := fun e mem => (studies e mem).2
    technical := (spoken_skills skillsRead).1
    soft := (spoken_skills skillsRead).2
    languages := spoken
    certifications := says_of_textsIn certificationsRead
    contact := spoken_contact contactRead
    avatar := fun s mem => says_of_mem_textOf mem }

theorem isTidy_ofJson {value : Json} {content : Content} (h : ofJson value = .ok content) :
    content.IsTidy := (isSpoken_ofJson h).isTidy

end Content

end Vitae
