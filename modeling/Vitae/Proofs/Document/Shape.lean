import Mathlib.Data.List.Forall2
import Vitae.Proofs.Document.Catalogue

/-!
The shape of a content: which texts it has and how many items, whatever they say. The ids of its
elements depend on nothing else of it.
-/

namespace Vitae

open Decimal (natText)

structure Experience.SameShape (e e' : Experience) : Prop where
  title : e.title.isEmpty = e'.title.isEmpty
  company : e.company.isEmpty = e'.company.isEmpty
  period : e.period.isEmpty = e'.period.isEmpty
  highlights : e.highlights.length = e'.highlights.length
  location : e.location.isSome = e'.location.isSome

structure Education.SameShape (e e' : Education) : Prop where
  degree : e.degree.isEmpty = e'.degree.isEmpty
  institution : e.institution.isEmpty = e'.institution.isEmpty
  year : e.year.isEmpty = e'.year.isEmpty
  details : e.details.isSome = e'.details.isSome

structure SpokenLanguage.SameShape (l l' : SpokenLanguage) : Prop where
  name : l.name.isEmpty = l'.name.isEmpty
  level : l.level.isEmpty = l'.level.isEmpty

/-- A contact field, if there is a contact and it has the field. -/
def Content.contactField (content : Content) (field : ContactField) : Option String :=
  content.contact.bind (·.field field)

/-- Two contents with the same texts and fields set and with lists of the same lengths. The name is
always shown. -/
structure Content.SameShape (content content' : Content) : Prop where
  headline : content.headline.isSome = content'.headline.isSome
  summary : content.summary.isSome = content'.summary.isSome
  experience : List.Forall₂ Experience.SameShape content.experience content'.experience
  education : List.Forall₂ Education.SameShape content.education content'.education
  technical : content.skills.technical.length = content'.skills.technical.length
  soft : content.skills.soft.length = content'.skills.soft.length
  languages : List.Forall₂ SpokenLanguage.SameShape content.languages content'.languages
  certifications : content.certifications.length = content'.certifications.length
  contact : ∀ field,
    (content.contactField field).isSome = (content'.contactField field).isSome
  avatar : content.avatarUrl.isSome = content'.avatarUrl.isSome

/-! Lists of the same shape -/

theorem isEmpty_congr {α β : Type} {items : List α} {others : List β}
    (same : items.length = others.length) : items.isEmpty = others.isEmpty := by
  cases items <;> cases others <;> simp_all

theorem map_zipIdx_congr {α β γ : Type} {R : α → β → Prop} {items : List α} {others : List β}
    (alike : List.Forall₂ R items others) {f : Nat → α → γ} {g : Nat → β → γ}
    (same : ∀ i a b, a ∈ items → b ∈ others → R a b → f i a = g i b) (start : Nat) :
    ((items.zipIdx start).map fun (a, i) => f i a)
      = (others.zipIdx start).map fun (b, i) => g i b := by
  -- the start is arbitrary, for the rest of the items stands one position further on
  induction alike generalizing start with
  | nil => rfl
  | cons related _ ih =>
    have first := same start _ _ List.mem_cons_self List.mem_cons_self related
    have rest := ih (fun i a b mem mem' =>
      same i a b (List.mem_cons_of_mem _ mem) (List.mem_cons_of_mem _ mem')) (start + 1)
    simp only [List.zipIdx_cons, List.map_cons, first, rest]

/-- Items that are related one by one give the same at each position. -/
theorem mapIndexed_congr {α β γ : Type} {R : α → β → Prop} {items : List α} {others : List β}
    (alike : List.Forall₂ R items others) {f : Nat → α → γ} {g : Nat → β → γ}
    (same : ∀ i a b, a ∈ items → b ∈ others → R a b → f i a = g i b) :
    mapIndexed f items = mapIndexed g others :=
  map_zipIdx_congr alike same 0

theorem forall₂_of_length_eq {α β : Type} {R : α → β → Prop} {items : List α} {others : List β}
    (same : items.length = others.length) (related : ∀ a ∈ items, ∀ b ∈ others, R a b) :
    List.Forall₂ R items others :=
  List.forall₂_iff_zip.mpr ⟨same, fun mem =>
    related _ (List.of_mem_zip mem).1 _ (List.of_mem_zip mem).2⟩

/-! Texts of the same shape -/

theorem eq_of_false_iff {b b' : Bool} (h : b = false ↔ b' = false) : b = b' := by
  cases b <;> cases b' <;> simp_all

theorem pathOf_congr {text text' : String} (same : text.isEmpty = text'.isEmpty)
    (path : List String) : pathOf text path = pathOf text' path := by
  rw [pathOf, pathOf, same]

theorem isEmpty_joinPresent_congr (separator : String) {first first' second second' : String}
    (same : first.isEmpty = first'.isEmpty) (same' : second.isEmpty = second'.isEmpty) :
    (joinPresent separator [first, second]).isEmpty
      = (joinPresent separator [first', second']).isEmpty := by
  apply eq_of_false_iff
  rw [isEmpty_joinPresent, isEmpty_joinPresent, same, same']

theorem isEmpty_getD_congr {text text' : Option String} (tidy : ∀ s ∈ text, s.isEmpty = false)
    (tidy' : ∀ s ∈ text', s.isEmpty = false) (same : text.isSome = text'.isSome) :
    (text.getD "").isEmpty = (text'.getD "").isEmpty := by
  apply eq_of_false_iff
  rw [isEmpty_getD tidy, isEmpty_getD tidy', same]

namespace Assembly

variable {content content' : Content} (layout : LayoutTokens)

/-- Below each of as many texts that say something stands the same path. -/
theorem mapIndexed_pathOf_congr {texts texts' : List String}
    (tidy : ∀ s ∈ texts, s.isEmpty = false) (tidy' : ∀ s ∈ texts', s.isEmpty = false)
    (same : texts.length = texts'.length) :
    mapIndexed (fun i text => pathOf text [natText i]) texts
      = mapIndexed (fun i text => pathOf text [natText i]) texts' := by
  apply mapIndexed_congr (forall₂_of_length_eq same fun _ _ _ _ => trivial)
  intro i text text' mem mem' _
  exact pathOf_congr ((tidy _ mem).trans (tidy' _ mem').symm) _

theorem highlightRests_congr (format : ExperienceFormat) {texts texts' : List String}
    (tidy : ∀ s ∈ texts, s.isEmpty = false) (tidy' : ∀ s ∈ texts', s.isEmpty = false)
    (same : texts.length = texts'.length) :
    highlightRests format texts = highlightRests format texts' := by
  have none : texts.isEmpty = texts'.isEmpty := isEmpty_congr same
  unfold highlightRests
  rw [none]
  split
  · rfl
  · next some =>
    cases format with
    | bullets => exact congrArg (_ :: ·.flatten) (mapIndexed_pathOf_congr tidy tidy' same)
    | paragraph =>
      have given' : texts' ≠ [] := by simpa using some
      have given : texts ≠ [] := by
        rw [← none] at some
        simpa using some
      apply pathOf_congr
      rw [isEmpty_intercalate_of_ne_nil " " given tidy,
        isEmpty_intercalate_of_ne_nil " " given' tidy']

theorem experienceRests_congr (format : ExperienceFormat) {e e' : Experience}
    (tidy : (∀ s ∈ e.highlights, s.isEmpty = false) ∧ ∀ s ∈ e.location, s.isEmpty = false)
    (tidy' : (∀ s ∈ e'.highlights, s.isEmpty = false) ∧ ∀ s ∈ e'.location, s.isEmpty = false)
    (shape : e.SameShape e') : experienceRests format e = experienceRests format e' := by
  have place : (e.location.getD "").isEmpty = (e'.location.getD "").isEmpty :=
    isEmpty_getD_congr tidy.2 tidy'.2 shape.location
  have company := isEmpty_joinPresent_congr ", " shape.company place
  rw [experienceRests, experienceRests, pathOf_congr shape.title, pathOf_congr company,
    pathOf_congr shape.period, highlightRests_congr format tidy.1 tidy'.1 shape.highlights]

theorem educationRests_congr {e e' : Education} (tidy : ∀ s ∈ e.details, s.isEmpty = false)
    (tidy' : ∀ s ∈ e'.details, s.isEmpty = false) (shape : e.SameShape e') :
    educationRests e = educationRests e' := by
  have details := isEmpty_getD_congr tidy tidy' shape.details
  rw [educationRests, educationRests, pathOf_congr shape.degree, pathOf_congr shape.institution,
    pathOf_congr shape.year, pathOf_congr details]

theorem languageRests_congr {l l' : SpokenLanguage} (shape : l.SameShape l') :
    languageRests l = languageRests l' := by
  rw [languageRests, languageRests, pathOf_congr shape.name, pathOf_congr shape.level]

theorem groupRests_congr (category : SkillCategory) {skills skills' : List String}
    (same : skills.length = skills'.length) :
    groupRests category skills = groupRests category skills' := by
  have items : mapIndexed (fun i _ => [category.word, natText i]) skills
      = mapIndexed (fun i _ => [category.word, natText i]) skills' :=
    mapIndexed_congr (forall₂_of_length_eq same fun _ _ _ _ => trivial) fun _ _ _ _ _ _ => rfl
  rw [groupRests, groupRests, isEmpty_congr same, items]

theorem hasContent_congr (tidy : content.IsTidy) (tidy' : content'.IsTidy)
    (shape : content.SameShape content') (kind : SectionKind) :
    hasContent content kind = hasContent content' kind := by
  cases kind with
  | summary =>
    rw [hasContent, hasContent, Text.unlessEmpty_eq_self tidy.summary,
      Text.unlessEmpty_eq_self tidy'.summary, shape.summary]
  | experience => exact congrArg (!·) (isEmpty_congr shape.experience.length_eq)
  | education => exact congrArg (!·) (isEmpty_congr shape.education.length_eq)
  | skills =>
    rw [hasContent, hasContent, Skills.isEmpty, Skills.isEmpty, isEmpty_congr shape.technical,
      isEmpty_congr shape.soft]
  | languages => exact congrArg (!·) (isEmpty_congr shape.languages.length_eq)
  | certifications => exact congrArg (!·) (isEmpty_congr shape.certifications)

theorem childRests_congr (tidy : content.IsTidy) (tidy' : content'.IsTidy)
    (shape : content.SameShape content') (kind : SectionKind) :
    childRests content layout kind = childRests content' layout kind := by
  cases kind with
  | summary =>
    exact pathOf_congr (isEmpty_getD_congr tidy.summary tidy'.summary shape.summary) _
  | experience =>
    refine congrArg List.flatten (mapIndexed_congr shape.experience ?_)
    intro i e e' mem mem' same
    rw [experienceRests_congr _ ⟨tidy.highlights e mem, tidy.locations e mem⟩
      ⟨tidy'.highlights e' mem', tidy'.locations e' mem'⟩ same]
  | education =>
    refine congrArg List.flatten (mapIndexed_congr shape.education ?_)
    intro i e e' mem mem' same
    rw [educationRests_congr (tidy.details e mem) (tidy'.details e' mem') same]
  | skills =>
    rw [childRests, childRests, groupRests_congr _ shape.technical, groupRests_congr _ shape.soft]
  | languages =>
    refine congrArg List.flatten (mapIndexed_congr shape.languages ?_)
    intro i l l' mem mem' same
    rw [languageRests_congr same]
  | certifications =>
    exact congrArg List.flatten
      (mapIndexed_pathOf_congr tidy.certifications tidy'.certifications shape.certifications)

/-! The header -/

/-- The contact fields that are shown. -/
def shownFields (content : Content) : List ContactField :=
  ContactField.all.filter fun field => (content.contactField field).isSome

theorem map_fst_items {content : Content} (tidy : content.IsTidy) :
    ((content.contact.map Contact.items).getD []).map Prod.fst = shownFields content := by
  unfold shownFields Content.contactField
  cases given : content.contact with
  | none => rfl
  | some contact =>
    have fields (field : ContactField) :
        Text.unlessEmpty (contact.field field) = contact.field field :=
      Text.unlessEmpty_eq_self (tidy.contact contact given field)
    rw [Option.map_some, Option.getD_some, Contact.items, List.map_filterMap]
    simp only [Option.map_map, Option.bind_some, fields]
    induction ContactField.all with
    | nil => rfl
    | cons field fields ih =>
      rw [List.filterMap_cons, List.filter_cons, ih]
      cases contact.field field <;> rfl

theorem contactRests_eq {content : Content} (tidy : content.IsTidy) : contactRests content
    = if (shownFields content).isEmpty then []
      else ["contact"] :: (shownFields content).map fun field => [field.word] := by
  rw [contactRests, ← map_fst_items tidy, List.isEmpty_map, List.map_map]
  rfl

theorem headerRests_congr (tidy : content.IsTidy) (tidy' : content'.IsTidy)
    (shape : content.SameShape content') :
    headerRests content layout = headerRests content' layout := by
  have fields : shownFields content = shownFields content' := by
    simp only [shownFields, shape.contact]
  have headline := isEmpty_getD_congr tidy.headline tidy'.headline shape.headline
  rw [headerRests, headerRests, photoRests, photoRests, Text.unlessEmpty_eq_self tidy.avatar,
    Text.unlessEmpty_eq_self tidy'.avatar, shape.avatar, pathOf_congr headline,
    contactRests_eq tidy, contactRests_eq tidy', fields]

end Assembly

/-- The paths of a tree depend on the shape of the content alone. -/
theorem DocumentTree.paths_assemble_congr {content content' : Content} (layout : LayoutTokens)
    (tidy : content.IsTidy) (tidy' : content'.IsTidy) (shape : content.SameShape content') :
    Element.paths (assemble content layout).roots
      = Element.paths (assemble content' layout).roots := by
  have kinds : Assembly.hasContent content = Assembly.hasContent content' :=
    funext (Assembly.hasContent_congr tidy tidy' shape)
  have sections : Assembly.sectionPaths content layout = Assembly.sectionPaths content' layout := by
    funext kind
    rw [Assembly.sectionPaths, Assembly.sectionPaths,
      Assembly.childRests_congr layout tidy tidy' shape]
  rw [paths_assemble, paths_assemble, Assembly.headerRests_congr layout tidy tidy' shape, kinds,
    sections]

end Vitae
