import Mathlib.Data.List.Nodup
import Vitae.Proofs.Content
import Vitae.Proofs.Document.Path
import Vitae.Proofs.Element.Path
import Vitae.Proofs.Style.Order

/-!
The catalogue of ids. Every element of a document that can be overridden has a path that is
determined by the content, no two of them have one path, and no two paths give one id.
-/

namespace Vitae

open Decimal (natText)
open Assembly (SkillCategory hasContent)

namespace Catalogue

/-- What is below the path of the header. -/
inductive InHeader (content : Content) (layout : LayoutTokens) : List String → Prop where
  | self : InHeader content layout []
  | name : InHeader content layout ["name"]
  | headline (some : content.headline.isSome) : InHeader content layout ["headline"]
  | photo (some : content.avatarUrl.isSome) (shown : layout.showPhoto) :
      InHeader content layout ["photo"]
  | contact (contact : Contact) (given : content.contact = some contact)
      (some : contact.items ≠ []) : InHeader content layout ["contact"]
  | field (contact : Contact) (given : content.contact = some contact) (field : ContactField)
      (some : (contact.field field).isSome) : InHeader content layout [field.word]

/-- What is below the path of an item of experience. Highlights are listed one by one, or there is a
description of all of them. -/
inductive InExperience (format : ExperienceFormat) (e : Experience) : List String → Prop where
  | self : InExperience format e []
  | title (some : e.title.isEmpty = false) : InExperience format e ["title"]
  | company (some : e.company.isEmpty = false ∨ e.location.isSome) :
      InExperience format e ["company"]
  | period (some : e.period.isEmpty = false) : InExperience format e ["period"]
  | highlights (listed : format = .bullets) (some : e.highlights ≠ []) :
      InExperience format e ["highlights"]
  | highlight (listed : format = .bullets) (j : Nat) (inside : j < e.highlights.length) :
      InExperience format e [natText j]
  | description (joined : format = .paragraph) (some : e.highlights ≠ []) :
      InExperience format e ["description"]

inductive InEducation (e : Education) : List String → Prop where
  | self : InEducation e []
  | degree (some : e.degree.isEmpty = false) : InEducation e ["degree"]
  | institution (some : e.institution.isEmpty = false) : InEducation e ["institution"]
  | year (some : e.year.isEmpty = false) : InEducation e ["year"]
  | details (some : e.details.isSome) : InEducation e ["details"]

inductive InLanguage (l : SpokenLanguage) : List String → Prop where
  | self : InLanguage l []
  | name (some : l.name.isEmpty = false) : InLanguage l ["name"]
  | level (some : l.level.isEmpty = false) : InLanguage l ["level"]

def skillsOf (content : Content) : SkillCategory → List String
  | .technical => content.skills.technical
  | .soft => content.skills.soft

/-- What is below the word of a kind of section. -/
inductive InSection (content : Content) (layout : LayoutTokens) :
    SectionKind → List String → Prop where
  | summary (some : content.summary.isSome) : InSection content layout .summary []
  | experience (i : Nat) (e : Experience) (item : content.experience[i]? = some e)
      (rest : List String) (inside : InExperience layout.experienceFormat e rest) :
      InSection content layout .experience (natText i :: rest)
  | education (i : Nat) (e : Education) (item : content.education[i]? = some e)
      (rest : List String) (inside : InEducation e rest) :
      InSection content layout .education (natText i :: rest)
  | skillGroup (category : SkillCategory) (some : skillsOf content category ≠ []) :
      InSection content layout .skills [category.word]
  | skill (category : SkillCategory) (i : Nat) (inside : i < (skillsOf content category).length) :
      InSection content layout .skills [category.word, natText i]
  | language (i : Nat) (l : SpokenLanguage) (item : content.languages[i]? = some l)
      (rest : List String) (inside : InLanguage l rest) :
      InSection content layout .languages (natText i :: rest)
  | certification (i : Nat) (inside : i < content.certifications.length) :
      InSection content layout .certifications [natText i]

end Catalogue

/-- The paths of the elements that a content has under a layout. -/
inductive Catalogued (content : Content) (layout : LayoutTokens) : List String → Prop where
  | header (rest : List String) (inside : Catalogue.InHeader content layout rest) :
      Catalogued content layout ("header" :: rest)
  | root (kind : SectionKind) (some : hasContent content kind) :
      Catalogued content layout ["section", kind.word]
  | title (kind : SectionKind) (some : hasContent content kind) :
      Catalogued content layout ["section", kind.word, "title"]
  | item (kind : SectionKind) (rest : List String)
      (inside : Catalogue.InSection content layout kind rest) :
      Catalogued content layout (kind.word :: rest)

/-! The catalogue is what is assembled -/

theorem mem_pathOf {text : String} {path other : List String} :
    other ∈ pathOf text path ↔ text.isEmpty = false ∧ other = path := by
  unfold pathOf
  cases text.isEmpty <;> simp

theorem mem_under {key : List String} {rests : List (List String)} {path : List String} :
    path ∈ under key rests ↔ ∃ rest ∈ rests, path = key ++ rest := by
  simp [under, eq_comm]

theorem isEmpty_intercalate (separator : String) {text : String} (some : text.isEmpty = false)
    (texts : List String) : (separator.intercalate (text :: texts)).isEmpty = false := by
  cases texts with
  | nil => simpa using some
  | cons next texts =>
    rw [String.intercalate_cons_cons]
    simp_all

/-- Texts of which each says something say something together. -/
theorem isEmpty_intercalate_of_ne_nil (separator : String) {texts : List String}
    (given : texts ≠ []) (tidy : ∀ s ∈ texts, s.isEmpty = false) :
    (separator.intercalate texts).isEmpty = false := by
  obtain ⟨first, rest, rfl⟩ := List.exists_cons_of_ne_nil given
  exact isEmpty_intercalate separator (tidy first List.mem_cons_self) rest

theorem isEmpty_joinPresent (separator first second : String) :
    (joinPresent separator [first, second]).isEmpty = false
      ↔ first.isEmpty = false ∨ second.isEmpty = false := by
  unfold joinPresent
  cases h : first.isEmpty with
  | false => simp [h, isEmpty_intercalate]
  | true =>
    cases h' : second.isEmpty with
    | false => simp [h, h']
    | true => simp [h, h']

/-- An optional text that is never empty shows whether it is there. -/
theorem isEmpty_getD {text : Option String} (tidy : ∀ s ∈ text, s.isEmpty = false) :
    (text.getD "").isEmpty = false ↔ text.isSome := by
  cases text with
  | none => simp
  | some s => simpa using tidy s rfl

namespace Assembly

open Catalogue

variable {content : Content} {layout : LayoutTokens}

theorem mem_highlightRests {format : ExperienceFormat} {e : Experience}
    (tidy : ∀ s ∈ e.highlights, s.isEmpty = false) {rest : List String} :
    rest ∈ highlightRests format e.highlights
      ↔ e.highlights ≠ [] ∧ match format with
        | .paragraph => rest = ["description"]
        | .bullets => rest = ["highlights"] ∨ ∃ j < e.highlights.length, rest = [natText j] := by
  unfold highlightRests
  split
  · next none => simpa using fun some => absurd (List.isEmpty_iff.mp none) some
  · next some =>
    have given : e.highlights ≠ [] := by simpa using some
    cases format with
    | paragraph =>
      have shown : (" ".intercalate e.highlights).isEmpty = false :=
        isEmpty_intercalate_of_ne_nil " " given tidy
      simp [mem_pathOf, shown, given]
    | bullets =>
      simp only [List.mem_cons, mem_flatten_mapIndexed, mem_pathOf]
      constructor
      · rintro (rfl | ⟨j, text, item, -, rfl⟩)
        · exact ⟨given, .inl rfl⟩
        · exact ⟨given, .inr ⟨j, (List.getElem?_eq_some_iff.mp item).1, rfl⟩⟩
      · rintro ⟨-, rfl | ⟨j, inside, rfl⟩⟩
        · exact .inl rfl
        · exact .inr ⟨j, e.highlights[j], List.getElem?_eq_getElem inside,
            tidy _ (List.getElem_mem inside), rfl⟩

theorem mem_experienceRests {format : ExperienceFormat} {e : Experience}
    (tidy : ∀ s ∈ e.highlights, s.isEmpty = false)
    (located : ∀ s ∈ e.location, s.isEmpty = false) {rest : List String} :
    rest ∈ experienceRests format e ↔ InExperience format e rest := by
  simp only [experienceRests, List.mem_append, List.mem_cons, mem_pathOf, mem_highlightRests tidy,
    isEmpty_joinPresent, isEmpty_getD located]
  constructor
  · rintro ((rfl | (⟨some, rfl⟩ | ⟨some, rfl⟩) | ⟨some, rfl⟩) | ⟨given, mem⟩)
    · exact .self
    · exact .title some
    · exact .company some
    · exact .period some
    · cases format with
      | paragraph =>
        obtain rfl := mem
        exact .description rfl given
      | bullets =>
        rcases mem with rfl | ⟨j, inside, rfl⟩
        · exact .highlights rfl given
        · exact .highlight rfl j inside
  · intro h
    cases h with
    | self => exact .inl (.inl rfl)
    | title some => exact .inl (.inr (.inl (.inl ⟨some, rfl⟩)))
    | company some => exact .inl (.inr (.inl (.inr ⟨some, rfl⟩)))
    | period some => exact .inl (.inr (.inr ⟨some, rfl⟩))
    | highlights listed some =>
      subst listed
      exact .inr ⟨some, .inl rfl⟩
    | highlight listed j inside =>
      subst listed
      exact .inr ⟨List.ne_nil_of_length_pos (by omega), .inr ⟨j, inside, rfl⟩⟩
    | description joined some =>
      subst joined
      exact .inr ⟨some, rfl⟩

theorem mem_educationRests {e : Education} (tidy : ∀ s ∈ e.details, s.isEmpty = false)
    {rest : List String} : rest ∈ educationRests e ↔ InEducation e rest := by
  simp only [educationRests, List.mem_append, List.mem_cons, mem_pathOf, isEmpty_getD tidy]
  constructor
  · rintro (rfl | ((⟨some, rfl⟩ | ⟨some, rfl⟩) | ⟨some, rfl⟩) | ⟨some, rfl⟩)
    · exact .self
    · exact .degree some
    · exact .institution some
    · exact .year some
    · exact .details some
  · rintro (_ | some | some | some | some) <;> simp_all

theorem mem_languageRests {l : SpokenLanguage} {rest : List String} :
    rest ∈ languageRests l ↔ InLanguage l rest := by
  simp only [languageRests, List.mem_append, List.mem_cons, mem_pathOf]
  constructor
  · rintro (rfl | ⟨some, rfl⟩ | ⟨some, rfl⟩)
    · exact .self
    · exact .name some
    · exact .level some
  · rintro (_ | some | some) <;> simp_all

theorem mem_groupRests {category : SkillCategory} {skills rest : List String} :
    rest ∈ groupRests category skills ↔ (skills ≠ [] ∧ rest = [category.word])
      ∨ ∃ i < skills.length, rest = [category.word, natText i] := by
  unfold groupRests
  split
  · next none => simp [List.isEmpty_iff.mp none]
  · next some =>
    have given : skills ≠ [] := by simpa using some
    rw [List.mem_cons, mem_mapIndexed]
    constructor
    · rintro (rfl | ⟨i, skill, item, rfl⟩)
      · exact .inl ⟨given, rfl⟩
      · exact .inr ⟨i, (List.getElem?_eq_some_iff.mp item).1, rfl⟩
    · rintro (⟨-, rfl⟩ | ⟨i, inside, rfl⟩)
      · exact .inl rfl
      · exact .inr ⟨i, skills[i], List.getElem?_eq_getElem inside, rfl⟩

theorem mem_childRests (tidy : content.IsTidy) {kind : SectionKind} {rest : List String} :
    rest ∈ childRests content layout kind ↔ InSection content layout kind rest := by
  cases kind with
  | summary =>
    rw [childRests, mem_pathOf, isEmpty_getD tidy.summary]
    constructor
    · rintro ⟨some, rfl⟩
      exact .summary some
    · rintro ⟨some⟩
      exact ⟨some, rfl⟩
  | experience =>
    have inner (i : Nat) (e : Experience) (item : content.experience[i]? = some e)
        (rest : List String) : rest ∈ experienceRests layout.experienceFormat e
          ↔ InExperience layout.experienceFormat e rest :=
      mem_experienceRests (tidy.highlights e (List.mem_of_getElem? item))
        (tidy.locations e (List.mem_of_getElem? item))
    simp only [childRests, mem_flatten_mapIndexed, mem_under]
    constructor
    · rintro ⟨i, e, item, below, mem, rfl⟩
      exact .experience i e item below ((inner i e item below).mp mem)
    · rintro (_ | ⟨i, e, item, below, inside⟩)
      exact ⟨i, e, item, below, (inner i e item below).mpr inside, rfl⟩
  | education =>
    have inner (i : Nat) (e : Education) (item : content.education[i]? = some e)
        (rest : List String) : rest ∈ educationRests e ↔ InEducation e rest :=
      mem_educationRests (tidy.details e (List.mem_of_getElem? item))
    simp only [childRests, mem_flatten_mapIndexed, mem_under]
    constructor
    · rintro ⟨i, e, item, below, mem, rfl⟩
      exact .education i e item below ((inner i e item below).mp mem)
    · rintro (_ | _ | ⟨i, e, item, below, inside⟩)
      exact ⟨i, e, item, below, (inner i e item below).mpr inside, rfl⟩
  | skills =>
    simp only [childRests, List.mem_append, mem_groupRests]
    constructor
    · rintro ((⟨some, rfl⟩ | ⟨i, inside, rfl⟩) | ⟨some, rfl⟩ | ⟨i, inside, rfl⟩)
      · exact .skillGroup .technical some
      · exact .skill .technical i inside
      · exact .skillGroup .soft some
      · exact .skill .soft i inside
    · intro h
      cases h with
      | skillGroup category some =>
        cases category with
        | technical => exact .inl (.inl ⟨some, rfl⟩)
        | soft => exact .inr (.inl ⟨some, rfl⟩)
      | skill category i inside =>
        cases category with
        | technical => exact .inl (.inr ⟨i, inside, rfl⟩)
        | soft => exact .inr (.inr ⟨i, inside, rfl⟩)
  | languages =>
    simp only [childRests, mem_flatten_mapIndexed, mem_under, mem_languageRests]
    constructor
    · rintro ⟨i, l, item, below, inside, rfl⟩
      exact .language i l item below inside
    · intro h
      cases h with
      | language i l item below inside => exact ⟨i, l, item, below, inside, rfl⟩
  | certifications =>
    simp only [childRests, mem_flatten_mapIndexed, mem_pathOf]
    constructor
    · rintro ⟨i, text, item, -, rfl⟩
      exact .certification i (List.getElem?_eq_some_iff.mp item).1
    · intro h
      cases h with
      | certification i inside =>
        exact ⟨i, content.certifications[i], List.getElem?_eq_getElem inside,
          tidy.certifications _ (List.getElem_mem inside), rfl⟩

/-- A field of a contact is shown if it is set. -/
theorem exists_mem_items {contact : Contact} {field : ContactField}
    (tidy : ∀ s ∈ contact.field field, s.isEmpty = false) :
    (∃ value, (field, value) ∈ contact.items) ↔ (contact.field field).isSome := by
  have known : field ∈ ContactField.all := by cases field <;> decide
  simp only [Contact.items, List.mem_filterMap, Option.map_eq_some_iff, Prod.mk.injEq]
  constructor
  · rintro ⟨value, other, -, found, set, rfl, rfl⟩
    rw [(Text.unlessEmpty_eq_some_iff.mp set).1]
    rfl
  · intro set
    obtain ⟨value, set⟩ := Option.isSome_iff_exists.mp set
    exact ⟨value, field, known, value,
      Text.unlessEmpty_eq_some_iff.mpr ⟨set, tidy value set⟩, rfl, rfl⟩

theorem mem_contactRests (tidy : content.IsTidy) {rest : List String} :
    rest ∈ contactRests content
    ↔ ∃ contact, content.contact = some contact ∧ ((contact.items ≠ [] ∧ rest = ["contact"])
      ∨ ∃ field : ContactField, (contact.field field).isSome ∧ rest = [field.word]) := by
  unfold contactRests
  dsimp only
  cases given : content.contact with
  | none => simp
  | some contact =>
    have fields (field : ContactField) := exists_mem_items (tidy.contact contact given field)
    simp only [Option.map_some, Option.getD_some, Option.some.injEq, exists_eq_left']
    split
    · next none =>
      have empty := List.isEmpty_iff.mp none
      simp only [← fields, empty]
      simp
    · next some =>
      have given : contact.items ≠ [] := by simpa using some
      simp only [← fields, List.mem_cons, List.mem_map, Prod.exists, given, ne_eq,
        not_false_eq_true, true_and]
      constructor
      · rintro (rfl | ⟨field, value, mem, rfl⟩)
        · exact .inl rfl
        · exact .inr ⟨field, ⟨value, mem⟩, rfl⟩
      · rintro (rfl | ⟨field, ⟨value, mem⟩, rfl⟩)
        · exact .inl rfl
        · exact .inr ⟨field, value, mem, rfl⟩

theorem mem_headerRests (tidy : content.IsTidy) {rest : List String} :
    rest ∈ headerRests content layout ↔ InHeader content layout rest := by
  have photo : rest ∈ photoRests content layout
      ↔ content.avatarUrl.isSome ∧ layout.showPhoto ∧ rest = ["photo"] := by
    rw [photoRests, Text.unlessEmpty_eq_self tidy.avatar]
    cases content.avatarUrl.isSome <;> cases layout.showPhoto <;> simp
  simp only [headerRests, List.mem_cons, List.mem_append, photo, mem_pathOf,
    mem_contactRests tidy, isEmpty_getD tidy.headline]
  constructor
  · rintro (rfl | ⟨some, shown, rfl⟩ | rfl | ⟨some, rfl⟩ | ⟨contact, given, mem⟩)
    · exact .self
    · exact .photo some shown
    · exact .name
    · exact .headline some
    · rcases mem with ⟨some, rfl⟩ | ⟨field, some, rfl⟩
      · exact .contact contact given some
      · exact .field contact given field some
  · intro h
    cases h with
    | self => exact .inl rfl
    | name => exact .inr (.inr (.inl rfl))
    | headline some => exact .inr (.inr (.inr (.inl ⟨some, rfl⟩)))
    | photo some shown => exact .inr (.inl ⟨some, shown, rfl⟩)
    | contact contact given some =>
      exact .inr (.inr (.inr (.inr ⟨contact, given, .inl ⟨some, rfl⟩⟩)))
    | field contact given field some =>
      exact .inr (.inr (.inr (.inr ⟨contact, given, .inr ⟨field, some, rfl⟩⟩)))

theorem hasContent_of_inSection (tidy : content.IsTidy) {kind : SectionKind} {rest : List String}
    (h : InSection content layout kind rest) : hasContent content kind := by
  have listed {α : Type} {items : List α} {i : Nat} {a : α} (item : items[i]? = some a) :
      (!items.isEmpty) = true := by
    simpa using List.ne_nil_of_mem (List.mem_of_getElem? item)
  have skills (category : SkillCategory) (some : skillsOf content category ≠ []) :
      (!content.skills.isEmpty) = true := by
    cases category <;> simp_all [skillsOf, Skills.isEmpty]
  cases h with
  | summary some => rwa [hasContent, Text.unlessEmpty_eq_self tidy.summary]
  | experience i e item => exact listed item
  | education i e item => exact listed item
  | skillGroup category some => exact skills category some
  | skill category i inside =>
    exact skills category (List.ne_nil_of_length_pos (Nat.zero_lt_of_lt inside))
  | language i l item => exact listed item
  | certification i inside => exact listed (List.getElem?_eq_getElem inside)

theorem mem_sectionPaths (tidy : content.IsTidy) {kind : SectionKind} {path : List String} :
    path ∈ sectionPaths content layout kind ↔ path = ["section", kind.word]
      ∨ path = ["section", kind.word, "title"]
      ∨ ∃ rest, InSection content layout kind rest ∧ path = kind.word :: rest := by
  simp only [sectionPaths, List.mem_cons, mem_under, mem_childRests tidy, List.singleton_append]

end Assembly

/-- The paths of an assembled tree are those of the catalogue. -/
theorem mem_paths_assemble {content : Content} {layout : LayoutTokens} (tidy : content.IsTidy)
    (complete : ∀ kind, kind ∈ layout.sectionOrder) {path : List String} :
    path ∈ Element.paths (DocumentTree.assemble content layout).roots
      ↔ Catalogued content layout path := by
  rw [DocumentTree.paths_assemble, List.mem_append, mem_under, List.mem_flatMap]
  simp only [Assembly.mem_headerRests tidy, List.mem_filter, Assembly.mem_sectionPaths tidy]
  constructor
  · rintro (⟨rest, inside, rfl⟩ | ⟨kind, ⟨-, some⟩, rfl | rfl | ⟨rest, inside, rfl⟩⟩)
    · exact .header rest inside
    · exact .root kind some
    · exact .title kind some
    · exact .item kind rest inside
  · intro h
    cases h with
    | header rest inside => exact .inl ⟨rest, inside, rfl⟩
    | root kind some => exact .inr ⟨kind, ⟨complete kind, some⟩, .inl rfl⟩
    | title kind some => exact .inr ⟨kind, ⟨complete kind, some⟩, .inr (.inl rfl)⟩
    | item kind rest inside =>
      exact .inr ⟨kind, ⟨complete kind, Assembly.hasContent_of_inSection tidy inside⟩,
        .inr (.inr ⟨rest, inside, rfl⟩)⟩

/-! No path is there twice -/

theorem nodup_pathOf (text : String) (path : List String) : (pathOf text path).Nodup := by
  unfold pathOf
  split <;> simp

theorem nodup_under {key : List String} {rests : List (List String)} (h : rests.Nodup) :
    (under key rests).Nodup :=
  h.map (List.append_right_injective key)

theorem pathOf_sublist (text : String) (path : List String) :
    (pathOf text path).Sublist [path] := by
  unfold pathOf
  split <;> simp

/-- The lists of different items share nothing if each tells the index it is for. -/
theorem nodup_flatten_mapIndexed {α β : Type} {f : Nat → α → List β} (own : ∀ i a, (f i a).Nodup)
    (apart : ∀ i j a b, i ≠ j → List.Disjoint (f i a) (f j b)) (items : List α) :
    (mapIndexed f items).flatten.Nodup := by
  have indices : items.zipIdx.Pairwise fun p q => p.2 ≠ q.2 := by
    rw [← List.pairwise_map, List.zipIdx_map_snd]
    exact List.nodup_range'
  rw [List.nodup_flatten]
  constructor
  · intro part mem
    obtain ⟨i, a, -, rfl⟩ := mem_mapIndexed.mp mem
    exact own i a
  · rw [mapIndexed, List.pairwise_map]
    exact indices.imp fun differs => apart _ _ _ _ differs

theorem natText_ne {s : String} (h : s.toList.all Decimal.isDecimalDigit = false) (n : Nat) :
    natText n ≠ s := by
  rintro rfl
  have digits : (natText n).toList.all Decimal.isDecimalDigit = true := by
    rw [List.all_eq_true]
    exact fun c mem => Decimal.isDecimalDigit_of_mem_natText mem
  rw [digits] at h
  exact absurd h (by decide)

/-- What stands below different indices differs. -/
theorem disjoint_under_natText {i j : Nat} (differs : i ≠ j) (rests others : List (List String)) :
    List.Disjoint (under [natText i] rests) (under [natText j] others) := by
  intro path mem mem'
  obtain ⟨rest, -, rfl⟩ := mem_under.mp mem
  obtain ⟨other, -, same⟩ := mem_under.mp mem'
  simp only [List.singleton_append, List.cons.injEq] at same
  exact differs (Decimal.natText_injective same.1)

namespace Assembly

theorem nodup_highlightRests (format : ExperienceFormat) (highlights : List String) :
    (highlightRests format highlights).Nodup := by
  unfold highlightRests
  split
  · exact .nil
  · cases format with
    | paragraph => exact nodup_pathOf _ _
    | bullets =>
      rw [List.nodup_cons]
      constructor
      · intro mem
        obtain ⟨j, text, -, inside⟩ := mem_flatten_mapIndexed.mp mem
        have same : natText j = "highlights" := by simpa using (mem_pathOf.mp inside).2.symm
        exact natText_ne (by decide) j same
      · apply nodup_flatten_mapIndexed fun _ _ => nodup_pathOf _ _
        intro i j text other differs path mem mem'
        obtain ⟨-, rfl⟩ := mem_pathOf.mp mem
        obtain ⟨-, same⟩ := mem_pathOf.mp mem'
        exact differs (Decimal.natText_injective (by simpa using same))

/-- The fields of an item of experience apart from its highlights. -/
def experienceFields : List (List String) := [[], ["title"], ["company"], ["period"]]

theorem not_mem_experienceFields {format : ExperienceFormat} {highlights rest : List String}
    (mem : rest ∈ highlightRests format highlights) : rest ∉ experienceFields := by
  unfold highlightRests at mem
  split at mem
  · simp at mem
  · cases format with
    | paragraph =>
      obtain ⟨-, rfl⟩ := mem_pathOf.mp mem
      decide
    | bullets =>
      rcases List.mem_cons.mp mem with rfl | mem
      · decide
      · obtain ⟨j, text, -, inside⟩ := mem_flatten_mapIndexed.mp mem
        obtain ⟨-, rfl⟩ := mem_pathOf.mp inside
        simp [experienceFields, natText_ne (by decide : "title".toList.all _ = false),
          natText_ne (by decide : "company".toList.all _ = false),
          natText_ne (by decide : "period".toList.all _ = false)]

theorem nodup_experienceRests (format : ExperienceFormat) (e : Experience) :
    (experienceRests format e).Nodup := by
  have fields : ([] :: (pathOf e.title ["title"] ++ pathOf
      (joinPresent ", " [e.company, e.location.getD ""]) ["company"]
        ++ pathOf e.period ["period"])).Sublist experienceFields :=
    (((pathOf_sublist _ _).append (pathOf_sublist _ _)).append (pathOf_sublist _ _)).cons_cons []
  rw [experienceRests, List.nodup_append]
  refine ⟨(by decide : experienceFields.Nodup).sublist fields, nodup_highlightRests _ _, ?_⟩
  rintro rest inside other mem rfl
  exact not_mem_experienceFields mem (fields.subset inside)

theorem nodup_educationRests (e : Education) : (educationRests e).Nodup := by
  have fields : (educationRests e).Sublist
      [[], ["degree"], ["institution"], ["year"], ["details"]] :=
    ((((pathOf_sublist _ _).append (pathOf_sublist _ _)).append (pathOf_sublist _ _)).append
      (pathOf_sublist _ _)).cons_cons []
  exact List.Nodup.sublist fields (by decide)

theorem nodup_languageRests (l : SpokenLanguage) : (languageRests l).Nodup := by
  have fields : (languageRests l).Sublist [[], ["name"], ["level"]] :=
    ((pathOf_sublist _ _).append (pathOf_sublist _ _)).cons_cons []
  exact List.Nodup.sublist fields (by decide)

theorem nodup_groupRests (category : SkillCategory) (skills : List String) :
    (groupRests category skills).Nodup := by
  unfold groupRests
  split
  · exact .nil
  · rw [List.nodup_cons]
    constructor
    · intro mem
      obtain ⟨i, skill, -, same⟩ := mem_mapIndexed.mp mem
      simp at same
    · rw [← flatten_mapIndexed_singleton]
      apply nodup_flatten_mapIndexed fun _ _ => by simp
      intro i j skill other differs path mem mem'
      obtain rfl := List.mem_singleton.mp mem
      have same : natText i = natText j := by simpa using mem'
      exact differs (Decimal.natText_injective same)

theorem disjoint_groupRests (technical soft : List String) :
    List.Disjoint (groupRests .technical technical) (groupRests .soft soft) := by
  intro rest mem mem'
  have words : SkillCategory.technical.word ≠ SkillCategory.soft.word := by decide
  rcases mem_groupRests.mp mem with ⟨-, rfl⟩ | ⟨i, -, rfl⟩
  · rcases mem_groupRests.mp mem' with ⟨-, same⟩ | ⟨j, -, same⟩ <;> simp [words] at same
  · rcases mem_groupRests.mp mem' with ⟨-, same⟩ | ⟨j, -, same⟩ <;> simp [words] at same

theorem nodup_childRests (content : Content) (layout : LayoutTokens) (kind : SectionKind) :
    (childRests content layout kind).Nodup := by
  cases kind with
  | summary => exact nodup_pathOf _ _
  | experience =>
    exact nodup_flatten_mapIndexed (fun _ e => nodup_under (nodup_experienceRests _ e))
      (fun _ _ _ _ differs => disjoint_under_natText differs _ _) _
  | education =>
    exact nodup_flatten_mapIndexed (fun _ e => nodup_under (nodup_educationRests e))
      (fun _ _ _ _ differs => disjoint_under_natText differs _ _) _
  | skills =>
    exact (nodup_groupRests _ _).append (nodup_groupRests _ _) (disjoint_groupRests _ _)
  | languages =>
    exact nodup_flatten_mapIndexed (fun _ l => nodup_under (nodup_languageRests l))
      (fun _ _ _ _ differs => disjoint_under_natText differs _ _) _
  | certifications =>
    apply nodup_flatten_mapIndexed fun _ _ => nodup_pathOf _ _
    intro i j text other differs path mem mem'
    obtain ⟨-, rfl⟩ := mem_pathOf.mp mem
    obtain ⟨-, same⟩ := mem_pathOf.mp mem'
    exact differs (Decimal.natText_injective (by simpa using same))

theorem nodup_sectionPaths (content : Content) (layout : LayoutTokens) (kind : SectionKind) :
    (sectionPaths content layout kind).Nodup := by
  have other : kind.word ≠ "section" := by cases kind <;> decide
  have below (path : List String) : "section" :: path ∉ under [kind.word]
      (childRests content layout kind) := by
    intro mem
    obtain ⟨rest, -, same⟩ := mem_under.mp mem
    simp only [List.singleton_append, List.cons.injEq] at same
    exact other same.1.symm
  rw [sectionPaths, List.nodup_cons, List.nodup_cons]
  refine ⟨?_, below _, nodup_under (nodup_childRests content layout kind)⟩
  rw [List.mem_cons, not_or]
  exact ⟨by simp, below _⟩

/-- A path of a section tells its kind. -/
def BelongsTo (kind : SectionKind) (path : List String) : Prop :=
  ∃ rest, path = "section" :: kind.word :: rest ∨ path = kind.word :: rest

theorem belongsTo_of_mem {content : Content} {layout : LayoutTokens} {kind : SectionKind}
    {path : List String} (mem : path ∈ sectionPaths content layout kind) :
    BelongsTo kind path := by
  rw [sectionPaths, List.mem_cons, List.mem_cons, mem_under] at mem
  rcases mem with rfl | rfl | ⟨rest, -, rfl⟩
  · exact ⟨[], .inl rfl⟩
  · exact ⟨["title"], .inl rfl⟩
  · exact ⟨rest, .inr rfl⟩

theorem word_injective {kind other : SectionKind} (same : kind.word = other.word) :
    kind = other := by
  cases kind <;> cases other <;> first | rfl | exact absurd same (by decide)

theorem belongsTo_unique {kind other : SectionKind} {path : List String}
    (h : BelongsTo kind path) (h' : BelongsTo other path) : kind = other := by
  have apart (kind : SectionKind) : kind.word ≠ "section" := by cases kind <;> decide
  obtain ⟨rest, rfl | rfl⟩ := h
  · obtain ⟨rest', same | same⟩ := h'
    · simp only [List.cons.injEq, true_and] at same
      exact word_injective same.1
    · simp only [List.cons.injEq] at same
      exact absurd same.1.symm (apart other)
  · obtain ⟨rest', same | same⟩ := h'
    · simp only [List.cons.injEq] at same
      exact absurd same.1 (apart kind)
    · simp only [List.cons.injEq] at same
      exact word_injective same.1

theorem not_belongsTo_header (kind : SectionKind) (rest : List String) :
    ¬ BelongsTo kind ("header" :: rest) := by
  have apart : kind.word ≠ "header" := by cases kind <;> decide
  rintro ⟨rest', same | same⟩
  · simp at same
  · simp only [List.cons.injEq] at same
    exact apart same.1.symm

theorem contactRests_sublist (content : Content) : (contactRests content).Sublist
    (["contact"] :: ContactField.all.map fun field => [field.word]) := by
  unfold contactRests
  dsimp only
  split
  · exact List.nil_sublist _
  · cases content.contact with
    | none => simp
    | some contact =>
      have fields (all : List ContactField) : ((all.filterMap fun field =>
          (Text.unlessEmpty (contact.field field)).map fun value => (field, value)).map
            fun item => [item.1.word]).Sublist (all.map fun field => [field.word]) := by
        induction all with
        | nil => exact .slnil
        | cons field all ih =>
          rw [List.filterMap_cons]
          cases Text.unlessEmpty (contact.field field) with
          | none => exact ih.cons _
          | some value => exact ih.cons_cons _
      exact (fields ContactField.all).cons_cons _

theorem nodup_headerRests (content : Content) (layout : LayoutTokens) :
    (headerRests content layout).Nodup := by
  have photo : (photoRests content layout).Sublist [["photo"]] := by
    unfold photoRests
    split <;> simp
  have all : (headerRests content layout).Sublist ([] :: ([["photo"]] ++ ["name"] :: ([["headline"]]
      ++ (["contact"] :: ContactField.all.map fun field => [field.word])))) :=
    (photo.append (((pathOf_sublist _ _).append (contactRests_sublist content)).cons_cons
      ["name"])).cons_cons []
  exact List.Nodup.sublist all (by decide)

end Assembly

/-- No two elements of an assembled tree have one path. -/
theorem nodup_paths_assemble (content : Content) {layout : LayoutTokens}
    (distinct : layout.sectionOrder.Nodup) :
    (Element.paths (DocumentTree.assemble content layout).roots).Nodup := by
  have kinds : (layout.sectionOrder.filter (hasContent content)).Nodup := distinct.filter _
  rw [DocumentTree.paths_assemble, List.nodup_append]
  refine ⟨nodup_under (Assembly.nodup_headerRests content layout), ?_, ?_⟩
  · rw [List.nodup_flatMap]
    refine ⟨fun kind _ => Assembly.nodup_sectionPaths content layout kind, ?_⟩
    refine kinds.imp fun differs path mem mem' => differs ?_
    exact Assembly.belongsTo_unique (Assembly.belongsTo_of_mem mem) (Assembly.belongsTo_of_mem mem')
  · rintro path inHeader _ inSections rfl
    obtain ⟨rest, -, rfl⟩ := mem_under.mp inHeader
    obtain ⟨kind, -, mem⟩ := List.mem_flatMap.mp inSections
    exact Assembly.not_belongsTo_header kind rest (Assembly.belongsTo_of_mem mem)

/-! Ids -/

namespace Catalogue

/-- Pieces without hyphens. -/
def ArePlain (pieces : List String) : Prop := ∀ piece ∈ pieces, Lacks '-' piece

theorem arePlain_of_all {pieces : List String}
    (h : pieces.all fun piece => piece.toList.all (· != '-')) : ArePlain pieces := by
  intro piece mem
  simp only [List.all_eq_true, bne_iff_ne] at h
  exact fun inside => h piece mem '-' inside rfl

theorem arePlain_cons {piece : String} {pieces : List String} (h : ArePlain [piece])
    (h' : ArePlain pieces) : ArePlain (piece :: pieces) := by
  intro other mem
  rcases List.mem_cons.mp mem with rfl | mem
  · exact h other (by simp)
  · exact h' other mem

theorem arePlain_natText (n : Nat) : ArePlain [natText n] := by
  intro piece mem
  obtain rfl := List.mem_singleton.mp mem
  exact Decimal.lacks_natText (by decide) n

theorem arePlain_kind (kind : SectionKind) : ArePlain [kind.word] := by
  cases kind <;> exact arePlain_of_all (by decide)

theorem arePlain_category (category : SkillCategory) : ArePlain [category.word] := by
  cases category <;> exact arePlain_of_all (by decide)

theorem InHeader.arePlain {content : Content} {layout : LayoutTokens} {rest : List String}
    (h : InHeader content layout rest) : ArePlain rest := by
  cases h with
  | field contact given field some =>
    cases field <;> exact arePlain_of_all (by decide)
  | _ => exact arePlain_of_all (by decide)

theorem InExperience.arePlain {format : ExperienceFormat} {e : Experience} {rest : List String}
    (h : InExperience format e rest) : ArePlain rest := by
  cases h with
  | highlight listed j inside => exact arePlain_natText j
  | _ => exact arePlain_of_all (by decide)

theorem InEducation.arePlain {e : Education} {rest : List String} (h : InEducation e rest) :
    ArePlain rest := by
  cases h <;> exact arePlain_of_all (by decide)

theorem InLanguage.arePlain {l : SpokenLanguage} {rest : List String} (h : InLanguage l rest) :
    ArePlain rest := by
  cases h <;> exact arePlain_of_all (by decide)

theorem InSection.arePlain {content : Content} {layout : LayoutTokens} {kind : SectionKind}
    {rest : List String} (h : InSection content layout kind rest) : ArePlain rest := by
  cases h with
  | summary some => exact arePlain_of_all (by decide)
  | experience i e item rest inside => exact arePlain_cons (arePlain_natText i) inside.arePlain
  | education i e item rest inside => exact arePlain_cons (arePlain_natText i) inside.arePlain
  | skillGroup category some => exact arePlain_category category
  | skill category i inside => exact arePlain_cons (arePlain_category category) (arePlain_natText i)
  | language i l item rest inside => exact arePlain_cons (arePlain_natText i) inside.arePlain
  | certification i inside => exact arePlain_natText i

end Catalogue

/-- No path of the catalogue is empty, and no piece of one holds a hyphen. -/
theorem Catalogued.isPlain {content : Content} {layout : LayoutTokens} {path : List String}
    (h : Catalogued content layout path) : ElementId.IsPlain path := by
  have word : Catalogue.ArePlain ["section"] := Catalogue.arePlain_of_all (by decide)
  have title : Catalogue.ArePlain ["title"] := Catalogue.arePlain_of_all (by decide)
  have header : Catalogue.ArePlain ["header"] := Catalogue.arePlain_of_all (by decide)
  cases h with
  | header rest inside => exact ⟨by simp, Catalogue.arePlain_cons header inside.arePlain⟩
  | root kind some => exact ⟨by simp, Catalogue.arePlain_cons word (Catalogue.arePlain_kind kind)⟩
  | title kind some =>
    exact ⟨by simp, Catalogue.arePlain_cons word
      (Catalogue.arePlain_cons (Catalogue.arePlain_kind kind) title)⟩
  | item kind rest inside =>
    exact ⟨by simp, Catalogue.arePlain_cons (Catalogue.arePlain_kind kind) inside.arePlain⟩

namespace DocumentTree

theorem pathIds_eq (d : DocumentTree) :
    d.pathIds = (Element.paths d.roots).map ElementId.ofPath := by
  rw [pathIds, Element.paths, List.map_filterMap]
  rfl

/-- A tree with distinct ids is given them. -/
theorem identify_of_nodup {d : DocumentTree} (h : d.pathIds.Nodup) :
    d.identify = .ok (d.mapHeads ElementHead.withPathId) := by
  rw [identify, firstRepeated?_eq_none h (by simp)]

end DocumentTree

theorem nodup_pathIds_assemble {content : Content} {layout : LayoutTokens} (tidy : content.IsTidy)
    (distinct : layout.sectionOrder.Nodup) (complete : ∀ kind, kind ∈ layout.sectionOrder) :
    (DocumentTree.assemble content layout).pathIds.Nodup := by
  rw [DocumentTree.pathIds_eq]
  apply List.Nodup.map_on ?_ (nodup_paths_assemble content distinct)
  intro path mem other mem' same
  exact ElementId.ofPath_injective ((mem_paths_assemble tidy complete).mp mem).isPlain
    ((mem_paths_assemble tidy complete).mp mem').isPlain same

/-- Ids are the catalogue. Whatever a content is read from and whatever style resolves, its ids are
known without a duplicate, the header comes first, and they are exactly those of the catalogue. -/
theorem knownIds_exact {value style : Json} {content : Content} {tokens : StyleTokens}
    (read : Content.ofJson value = .ok content) (resolved : StyleTokens.ofJson style = .ok tokens) :
    ∃ ids, knownIds content tokens.layout = .ok ids ∧ ids.Nodup ∧ ids.head? = some "header"
      ∧ ∀ id, id ∈ ids ↔
        ∃ path, Catalogued content tokens.layout path ∧ id = ElementId.ofPath path := by
  have tidy := Content.isTidy_ofJson read
  obtain ⟨requested, order⟩ := StyleTokens.exists_sectionOrder resolved
  have distinct : tokens.layout.sectionOrder.Nodup := order ▸ nodup_completeOrder requested
  have complete : ∀ kind, kind ∈ tokens.layout.sectionOrder := by
    rw [order]
    exact mem_completeOrder requested
  have unique := nodup_pathIds_assemble tidy distinct complete
  refine ⟨(DocumentTree.assemble content tokens.layout).pathIds, ?_, unique, ?_, ?_⟩
  · rw [knownIds, DocumentTree.identify_of_nodup unique]
    rfl
  · have header : ElementId.ofPath ["header"] = "header" := by decide
    rw [DocumentTree.pathIds_eq, DocumentTree.paths_assemble]
    exact congrArg some header
  · intro id
    rw [DocumentTree.pathIds_eq, List.mem_map]
    constructor
    · rintro ⟨path, mem, rfl⟩
      exact ⟨path, (mem_paths_assemble tidy complete).mp mem, rfl⟩
    · rintro ⟨path, known, rfl⟩
      exact ⟨path, (mem_paths_assemble tidy complete).mpr known, rfl⟩

/-- One item of experience with one highlight. -/
def builderJson : Json :=
  .object [("fullName", .string "Ada"), ("experience", .list [.object [("title", .string "Builder"),
    ("location", .string "London"), ("highlights", .list [.string "Built an engine"])]])]

def builderIds : Checked (List String) := do
  let content ← Content.ofJson builderJson
  let tokens ← StyleTokens.ofJson (.object [])
  knownIds content tokens.layout

theorem knownIds_exact_builder :
    ∃ content tokens ids, Content.ofJson builderJson = .ok content
      ∧ StyleTokens.ofJson (.object []) = .ok tokens ∧ knownIds content tokens.layout = .ok ids
      ∧ ids = ["header", "header-name", "section-experience", "section-experience-title",
        "experience-0", "experience-0-title", "experience-0-company", "experience-0-highlights",
        "experience-0-0"]
      ∧ Catalogued content tokens.layout ["experience", "0", "0"] := by
  have given : builderIds.toOption = some ["header", "header-name", "section-experience",
      "section-experience-title", "experience-0", "experience-0-title", "experience-0-company",
      "experience-0-highlights", "experience-0-0"] := by decide +kernel
  have readable : (Content.ofJson builderJson).isOk := by decide +kernel
  have resolvable : (StyleTokens.ofJson (.object [])).isOk := by decide +kernel
  obtain ⟨content, read⟩ := Checked.exists_of_isOk readable
  obtain ⟨tokens, resolved⟩ := Checked.exists_of_isOk resolvable
  obtain ⟨ids, known, -, -, members⟩ := knownIds_exact read resolved
  have same : builderIds = .ok ids := Checked.bind_eq_ok.mpr ⟨content, read,
    Checked.bind_eq_ok.mpr ⟨tokens, resolved, known⟩⟩
  rw [same] at given
  obtain rfl := Option.some.inj given
  obtain ⟨path, catalogued, id⟩ := (members "experience-0-0").mp (by decide)
  have plain : ElementId.IsPlain ["experience", "0", "0"] :=
    ⟨by simp, Catalogue.arePlain_of_all (by decide)⟩
  have whole : ElementId.ofPath ["experience", "0", "0"] = "experience-0-0" := by decide
  obtain rfl := ElementId.ofPath_injective plain catalogued.isPlain (whole.trans id)
  exact ⟨content, tokens, _, read, resolved, known, rfl, catalogued⟩

end Vitae
