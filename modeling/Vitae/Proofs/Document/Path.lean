import Vitae.Proofs.Document.Assembly
import Vitae.Proofs.Element.Observation

/-!
The paths of assembled trees, part by part in document order. Below the path of an item or a section
stand the same lists whatever that path is, so they are computed without it.
-/

namespace Vitae

open Decimal (natText)

namespace Element

def paths (elements : List Element) : List (List String) :=
  (walkAll elements).filterMap ElementHead.path

theorem paths_append (elements others : List Element) :
    paths (elements ++ others) = paths elements ++ paths others :=
  seen_append ElementHead.path elements others

theorem paths_cons (element : Element) (elements : List Element) :
    paths (element :: elements) = paths [element] ++ paths elements :=
  paths_append [element] elements

theorem paths_flatten (parts : List (List Element)) :
    paths parts.flatten = (parts.map paths).flatten := seen_flatten ElementHead.path parts

theorem paths_node (head : ElementHead) (children : List Element) :
    paths [.node head children] = head.path.toList ++ paths children :=
  seen_node ElementHead.path head children

end Element

open Element (paths paths_append paths_cons paths_flatten paths_node)

theorem paths_boxElement (tag : String) (classes : List String) (children : List Element) :
    paths [boxElement tag classes children] = paths children := paths_node _ _

/-- A path, or none if a text is empty. -/
def pathOf (text : String) (path : List String) : List (List String) :=
  if text.isEmpty then [] else [path]

/-- Paths below another one. -/
def under (key : List String) (rests : List (List String)) : List (List String) :=
  rests.map (key ++ ·)

theorem under_cons (key rest : List String) (rests : List (List String)) :
    under key (rest :: rests) = (key ++ rest) :: under key rests := rfl

theorem under_append (key : List String) (rests others : List (List String)) :
    under key (rests ++ others) = under key rests ++ under key others := List.map_append

theorem under_flatten (key : List String) (parts : List (List (List String))) :
    under key parts.flatten = (parts.map (under key)).flatten := by
  rw [under, List.map_flatten]
  rfl

theorem under_under (key inner : List String) (rests : List (List String)) :
    under key (under inner rests) = under (key ++ inner) rests := by
  simp [under]

theorem under_pathOf (key : List String) (text : String) (rest : List String) :
    under key (pathOf text rest) = pathOf text (key ++ rest) := by
  unfold pathOf
  split <;> rfl

theorem map_mapIndexed {α β γ : Type} (g : β → γ) (f : Nat → α → β) (items : List α) :
    (mapIndexed f items).map g = mapIndexed (fun i a => g (f i a)) items := by
  simp [mapIndexed]

theorem flatten_mapIndexed_singleton {α β : Type} (f : Nat → α → β) (items : List α) :
    (mapIndexed (fun i a => [f i a]) items).flatten = mapIndexed f items := by
  simp only [mapIndexed, ← List.flatMap_def]
  rw [List.map_eq_flatMap]

theorem paths_mapIndexed {α : Type} (f : Nat → α → Element) (items : List α) :
    paths (mapIndexed f items) = (mapIndexed (fun i a => paths [f i a]) items).flatten := by
  rw [← flatten_mapIndexed_singleton, paths_flatten, map_mapIndexed]

theorem paths_fieldElement (tag cls text : String) (path : List String) (type : ElementType) :
    paths (fieldElement tag cls text path type) = pathOf text path := by
  unfold fieldElement pathOf
  split <;> rfl

theorem paths_optionalField (tag cls : String) (text : Option String) (path : List String)
    (type : ElementType) :
    paths (optionalField tag cls text path type) = pathOf (text.getD "") path :=
  paths_fieldElement tag cls _ path type

namespace Assembly

/-! Items -/

def highlightRests (format : ExperienceFormat) (highlights : List String) : List (List String) :=
  if highlights.isEmpty then []
  else
    match format with
    | .paragraph => pathOf (" ".intercalate highlights) ["description"]
    | .bullets =>
      ["highlights"] :: (mapIndexed (fun j text => pathOf text [natText j]) highlights).flatten

theorem paths_highlightElements (layout : LayoutTokens) (key highlights : List String) :
    paths (highlightElements layout key highlights)
      = under key (highlightRests layout.experienceFormat highlights) := by
  unfold highlightElements highlightRests
  split
  · rfl
  · cases layout.experienceFormat with
    | paragraph => rw [paths_fieldElement, under_pathOf]
    | bullets =>
      rw [paths_node, paths_flatten, map_mapIndexed]
      simp only [paths_fieldElement, Option.toList_some]
      simp only [under_cons, under_flatten, map_mapIndexed, under_pathOf, List.singleton_append]

def experienceRests (format : ExperienceFormat) (e : Experience) : List (List String) :=
  ([] :: (pathOf e.title ["title"] ++ pathOf (joinPresent ", " [e.company, e.location.getD ""])
    ["company"] ++ pathOf e.period ["period"])) ++ highlightRests format e.highlights

/-- The two texts of an item and the one beside them. -/
theorem paths_itemHeader (main below beside : List Element) :
    paths [boxElement "div" ["item-header"]
      (boxElement "div" ["item-heading"] (main ++ below) :: beside)]
      = paths main ++ paths below ++ paths beside := by
  rw [paths_boxElement, paths_cons, paths_boxElement, paths_append]

theorem paths_experienceItem (layout : LayoutTokens) (i : Nat) (e : Experience) :
    paths [experienceItem layout i e]
      = under ["experience", natText i] (experienceRests layout.experienceFormat e) := by
  rw [experienceItem, paths_node, paths_cons, paths_itemHeader, paths_highlightElements]
  simp only [paths_fieldElement, itemHead, Option.toList_some, experienceRests, under_append,
    under_cons, under_pathOf, List.cons_append, List.nil_append, List.append_assoc]

def educationRests (e : Education) : List (List String) :=
  [] :: (pathOf e.degree ["degree"] ++ pathOf e.institution ["institution"]
    ++ pathOf e.year ["year"] ++ pathOf (e.details.getD "") ["details"])

theorem paths_educationItem (layout : LayoutTokens) (i : Nat) (e : Education) :
    paths [educationItem layout i e] = under ["education", natText i] (educationRests e) := by
  rw [educationItem, paths_node, paths_cons, paths_itemHeader, paths_optionalField]
  simp only [paths_fieldElement, itemHead, Option.toList_some, educationRests, under_append,
    under_cons, under_pathOf, List.cons_append, List.nil_append, List.append_assoc]

def languageRests (l : SpokenLanguage) : List (List String) :=
  [] :: (pathOf l.name ["name"] ++ pathOf l.level ["level"])

theorem paths_languageItem (i : Nat) (l : SpokenLanguage) :
    paths [languageItem i l] = under ["languages", natText i] (languageRests l) := by
  rw [languageItem, paths_node, paths_append]
  simp only [paths_fieldElement, Option.toList_some, languageRests, under_append, under_cons,
    under_pathOf, List.cons_append, List.nil_append]

def groupRests (category : SkillCategory) (skills : List String) : List (List String) :=
  if skills.isEmpty then []
  else [category.word] :: mapIndexed (fun i _ => [category.word, natText i]) skills

theorem paths_skillGroup (layout : LayoutTokens) (category : SkillCategory)
    (skills : List String) :
    paths (skillGroup layout category skills) = under ["skills"] (groupRests category skills) := by
  have label : paths
      [.node { tag := "h4", classes := ["skills-label"], text := some category.title } []] = [] :=
    rfl
  unfold skillGroup groupRests
  split
  · rfl
  · rw [paths_node, paths_cons, label, paths_boxElement, paths_mapIndexed, under_cons, under,
      map_mapIndexed]
    simp only [paths_node, Option.toList_some, List.nil_append, List.cons_append]
    exact congrArg _ (flatten_mapIndexed_singleton _ _)

/-! Sections and the header -/

/-- The paths of what is in a section, without the word of its kind. -/
def childRests (content : Content) (layout : LayoutTokens) : SectionKind → List (List String)
  | .summary => pathOf (content.summary.getD "") []
  | .experience => (mapIndexed (fun i e =>
      under [natText i] (experienceRests layout.experienceFormat e)) content.experience).flatten
  | .education =>
    (mapIndexed (fun i e => under [natText i] (educationRests e)) content.education).flatten
  | .skills =>
    groupRests .technical content.skills.technical ++ groupRests .soft content.skills.soft
  | .languages =>
    (mapIndexed (fun i l => under [natText i] (languageRests l)) content.languages).flatten
  | .certifications =>
    (mapIndexed (fun i text => pathOf text [natText i]) content.certifications).flatten

theorem paths_sectionChildren (content : Content) (layout : LayoutTokens) (kind : SectionKind) :
    paths (sectionChildren content layout kind)
      = under [kind.word] (childRests content layout kind) := by
  cases kind with
  | summary =>
    rw [sectionChildren, paths_optionalField, childRests, under_pathOf]
    rfl
  | experience =>
    rw [sectionChildren, paths_mapIndexed, childRests, under_flatten, map_mapIndexed]
    simp only [paths_experienceItem, under_under]
    rfl
  | education =>
    rw [sectionChildren, paths_mapIndexed, childRests, under_flatten, map_mapIndexed]
    simp only [paths_educationItem, under_under]
    rfl
  | skills =>
    rw [sectionChildren, paths_boxElement, paths_append, paths_skillGroup, paths_skillGroup,
      childRests, under_append]
    rfl
  | languages =>
    rw [sectionChildren, paths_boxElement, paths_mapIndexed, childRests, under_flatten,
      map_mapIndexed]
    simp only [paths_languageItem, under_under]
    rfl
  | certifications =>
    rw [sectionChildren, paths_boxElement, paths_flatten, map_mapIndexed, childRests,
      under_flatten, map_mapIndexed]
    simp only [certificationItem, paths_fieldElement, under_pathOf]
    rfl

/-- The paths of a section. -/
def sectionPaths (content : Content) (layout : LayoutTokens) (kind : SectionKind) :
    List (List String) :=
  ["section", kind.word] :: ["section", kind.word, "title"]
    :: under [kind.word] (childRests content layout kind)

theorem paths_sectionElement (content : Content) (layout : LayoutTokens) (kind : SectionKind) :
    paths [sectionElement kind (sectionChildren content layout kind)]
      = sectionPaths content layout kind := by
  rw [sectionElement, paths_node, paths_cons, paths_node, paths_sectionChildren]
  rfl

def photoRests (content : Content) (layout : LayoutTokens) : List (List String) :=
  if (Text.unlessEmpty content.avatarUrl).isSome && layout.showPhoto then [["photo"]] else []

theorem paths_photo (content : Content) (layout : LayoutTokens) :
    paths (photo content layout) = under ["header"] (photoRests content layout) := by
  unfold photo photoRests
  cases Text.unlessEmpty content.avatarUrl with
  | none => rfl
  | some url => cases layout.showPhoto <;> rfl

def contactRests (content : Content) : List (List String) :=
  let items := (content.contact.map Contact.items).getD []
  if items.isEmpty then [] else ["contact"] :: items.map fun item => [item.1.word]

theorem paths_icon (field : ContactField) : paths [field.icon] = [] := by
  cases field <;> rfl

theorem paths_contactItem (layout : LayoutTokens) (item : ContactField × String) :
    paths [contactItem layout item] = [["header", item.1.word]] := by
  obtain ⟨field, value⟩ := item
  unfold contactItem
  dsimp only
  split
  · rw [paths_node, paths_cons, paths_icon, paths_node]
    rfl
  · rfl

theorem paths_contactBlock (content : Content) (layout : LayoutTokens) :
    paths (contactBlock content layout) = under ["header"] (contactRests content) := by
  have items (all : List (ContactField × String)) : paths (all.map (contactItem layout))
      = under ["header"] (all.map fun item => [item.1.word]) := by
    induction all with
    | nil => rfl
    | cons item all ih =>
      rw [List.map_cons, paths_cons, paths_contactItem, ih]
      rfl
  unfold contactBlock contactRests
  dsimp only
  split
  · rfl
  · rw [paths_node, items, under_cons]
    rfl

def headerRests (content : Content) (layout : LayoutTokens) : List (List String) :=
  [] :: (photoRests content layout
    ++ ["name"] :: (pathOf (content.headline.getD "") ["headline"] ++ contactRests content))

theorem paths_header (content : Content) (layout : LayoutTokens) :
    paths [header content layout] = under ["header"] (headerRests content layout) := by
  have name : paths [nameElement content] = [["header", "name"]] := rfl
  rw [header, paths_node, paths_append, paths_append, paths_photo, paths_boxElement, paths_cons,
    name, paths_optionalField, paths_contactBlock, headerRests, under_cons, under_append,
    under_cons, under_append, under_pathOf]
  simp

end Assembly

/-- An assembled tree is seen section by section. -/
theorem DocumentTree.seen_assemble {β : Type} (observe : ElementHead → Option β) (content : Content)
    (layout : LayoutTokens) :
    Element.seen observe (DocumentTree.assemble content layout).roots
      = Element.seen observe [Assembly.header content layout]
        ++ (layout.sectionOrder.filter (Assembly.hasContent content)).flatMap fun kind =>
          Element.seen observe
            [Assembly.sectionElement kind (Assembly.sectionChildren content layout kind)] := by
  rw [roots, Element.seen_cons, assemble, Assembly.sections, List.map_map, Element.seen_map]
  rfl

/-- The paths of an assembled tree. -/
theorem DocumentTree.paths_assemble (content : Content) (layout : LayoutTokens) :
    paths (DocumentTree.assemble content layout).roots
      = under ["header"] (Assembly.headerRests content layout)
        ++ (layout.sectionOrder.filter (Assembly.hasContent content)).flatMap
          (Assembly.sectionPaths content layout) := by
  have sections : (fun kind => paths
      [Assembly.sectionElement kind (Assembly.sectionChildren content layout kind)])
      = Assembly.sectionPaths content layout :=
    funext (Assembly.paths_sectionElement content layout)
  rw [← Assembly.paths_header, ← sections]
  exact seen_assemble ElementHead.path content layout

end Vitae
