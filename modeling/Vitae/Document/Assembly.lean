import Vitae.Document.Tree
import Vitae.Element.Icon
import Vitae.Element.Label
import Vitae.Style.Tokens

/-!
Assembly: content laid out as a tree of elements, in the way the style asks for. Nothing is shown
for a text that is empty, and a section without content is left out.
-/

namespace Vitae

open Decimal (natText)

/-- An addressed element that shows one text, or nothing if the text is empty. -/
def fieldElement (tag cls text : String) (path : List String) (type : ElementType := .field) :
    List Element :=
  if text.isEmpty then []
  else
    [.node { tag, classes := [cls], text := some text, path := some path, type := some type,
              label := some (labelOf text) } []]

/-- `fieldElement` for a text that may not be there. -/
def optionalField (tag cls : String) (text : Option String) (path : List String)
    (type : ElementType := .field) : List Element :=
  fieldElement tag cls (text.getD "") path type

/-- An element that is there for the layout only. -/
def boxElement (tag : String) (classes : List String) (children : List Element) : Element :=
  .node { tag, classes } children

/-- One element for each item, told its position. -/
def mapIndexed {α β : Type} (f : Nat → α → β) (items : List α) : List β :=
  (items.zipIdx).map fun (item, i) => f i item

/-- The texts that are not empty with a separator between them. -/
def joinPresent (separator : String) (texts : List String) : String :=
  separator.intercalate (texts.filter fun text => !text.isEmpty)

def orElseText (text other : String) : String := if text.isEmpty then other else text

namespace Assembly

def headerClasses (layout : LayoutTokens) : List String :=
  ["cv-header", "header-" ++ layout.headerVariant.word]
    ++ (if layout.headerFullBleed then ["header-full-bleed"] else [])

def photo (content : Content) (layout : LayoutTokens) : List Element :=
  match Text.unlessEmpty content.avatarUrl with
  | some url =>
    if layout.showPhoto then
      [.node { tag := "div", classes := ["avatar-container"], path := some ["header", "photo"],
                type := some .photo, label := some "Photo" }
        [.node { tag := "img", classes := ["avatar"],
                  attributes := [("src", url), ("alt", content.fullName)] } []]]
    else []
  | none => []

def nameElement (content : Content) : Element :=
  .node { tag := "h1", classes := ["name"], text := some content.fullName,
          path := some ["header", "name"], type := some .headerField,
          label := some (labelOf content.fullName), required := true } []

/-- A contact field. With icons the text moves into an element of its own, behind the icon. -/
def contactItem (layout : LayoutTokens) (item : ContactField × String) : Element :=
  let (field, value) := item
  let head : ElementHead :=
    { tag := "span", classes := ["contact-" ++ field.word], path := some ["header", field.word],
      type := some .headerField, label := some (labelOf value) }
  if layout.useIcons then
    .node head [field.icon,
      .node { tag := "span", classes := ["contact-text"], text := some value } []]
  else .node { head with text := some value } []

def contactBlock (content : Content) (layout : LayoutTokens) : List Element :=
  let items := (content.contact.map Contact.items).getD []
  if items.isEmpty then []
  else
    [.node { tag := "div", classes := ["contact", "contact-" ++ layout.contactLayout.word],
              path := some ["header", "contact"], type := some .headerField,
              label := some "Contact" }
      (items.map (contactItem layout))]

def header (content : Content) (layout : LayoutTokens) : Element :=
  .node { tag := "header", classes := headerClasses layout, path := some ["header"],
          type := some .header, label := some "Header", required := true }
    (photo content layout
      ++ [boxElement "div" ["header-identity"]
            (nameElement content
              :: optionalField "p" "headline" content.headline ["header", "headline"] .headerField)]
      ++ contactBlock content layout)

def sectionTitle : SectionKind → String
  | .summary => "Professional Summary"
  | .experience => "Experience"
  | .education => "Education"
  | .skills => "Skills"
  | .languages => "Languages"
  | .certifications => "Certifications"

/-- A section with its title in front of its own elements. -/
def sectionElement (kind : SectionKind) (children : List Element) : Element :=
  let title := sectionTitle kind
  .node { tag := "section", classes := ["cv-section", "section-" ++ kind.word],
          path := some ["section", kind.word], type := some .sectionBlock,
          label := some (title ++ " Section") }
    (.node { tag := "h2", classes := ["section-title"], text := some title,
              path := some ["section", kind.word, "title"], type := some .sectionTitle,
              label := some title } []
      :: children)

def itemClass : SectionStyle → String
  | .clean => "item-clean"
  | .underlined => "item-clean"
  | .boxed => "item-card-subtle"
  | .timeline => "item-timeline"
  | .accentLeft => "item-accent-left"
  | .card => "item-card-bordered"

/-- The head of an item, labelled by its two main texts. -/
def itemHead (layout : LayoutTokens) (type : ElementType) (path texts : List String)
    (fallback : String) : ElementHead :=
  { tag := "div", classes := ["item", itemClass layout.sectionStyle], path := some path,
    type := some type, label := some (labelOf (orElseText (joinPresent " @ " texts) fallback)) }

def highlightElements (layout : LayoutTokens) (key : List String) (highlights : List String) :
    List Element :=
  if highlights.isEmpty then []
  else
    match layout.experienceFormat with
    | .paragraph =>
      fieldElement "p" "description" (" ".intercalate highlights) (key ++ ["description"])
    | .bullets =>
      [.node { tag := "ul", classes := ["highlights"], path := some (key ++ ["highlights"]),
                type := some .field, label := some "Highlights" }
        (mapIndexed (fun j text =>
          fieldElement "li" "highlight" text (key ++ [natText j]) .highlight) highlights).flatten]

def experienceItem (layout : LayoutTokens) (i : Nat) (e : Experience) : Element :=
  let key := ["experience", natText i]
  .node (itemHead layout .experienceItem key [e.title, e.company]
      ("Experience " ++ natText (i + 1)))
    (boxElement "div" ["item-header"]
      (boxElement "div" ["item-heading"]
          (fieldElement "h3" "item-title" e.title (key ++ ["title"])
            ++ fieldElement "span" "item-subtitle"
              (joinPresent ", " [e.company, e.location.getD ""]) (key ++ ["company"]))
        :: fieldElement "span" "item-period" e.period (key ++ ["period"]))
      :: highlightElements layout key e.highlights)

def educationItem (layout : LayoutTokens) (i : Nat) (e : Education) : Element :=
  let key := ["education", natText i]
  .node (itemHead layout .educationItem key [e.degree, e.institution]
      ("Education " ++ natText (i + 1)))
    (boxElement "div" ["item-header"]
      (boxElement "div" ["item-heading"]
          (fieldElement "h3" "item-title" e.degree (key ++ ["degree"])
            ++ fieldElement "span" "item-subtitle" e.institution (key ++ ["institution"]))
        :: fieldElement "span" "item-period" e.year (key ++ ["year"]))
      :: optionalField "p" "item-details" e.details (key ++ ["details"]))

def skillClass : SkillsDisplay → String
  | .tags => "skill-tag"
  | .list => "skill-item"
  | .compact => "skill-inline"

inductive SkillCategory where
  | technical
  | soft
  deriving DecidableEq, Repr

def SkillCategory.word : SkillCategory → String
  | .technical => "technical"
  | .soft => "soft"

def SkillCategory.title : SkillCategory → String
  | .technical => "Technical"
  | .soft => "Soft Skills"

def skillGroup (layout : LayoutTokens) (category : SkillCategory) (skills : List String) :
    List Element :=
  if skills.isEmpty then []
  else
    let display := layout.skillsDisplay
    let classes := skillClass display :: (if category = .soft then ["soft"] else [])
    [.node { tag := "div", classes := ["skills-category"],
              path := some ["skills", category.word], type := some .skillGroup,
              label := some category.title }
      [.node { tag := "h4", classes := ["skills-label"], text := some category.title } [],
        boxElement "div" ["skills-list", "skills-" ++ display.word]
          (mapIndexed (fun i skill =>
            .node { tag := "span", classes := classes, text := some skill,
                    path := some ["skills", category.word, natText i], type := some .skillTag,
                    label := some (labelOf skill) } []) skills)]]

def languageItem (i : Nat) (l : SpokenLanguage) : Element :=
  let key := ["languages", natText i]
  .node { tag := "div", classes := ["language-item"], path := some key,
          type := some .languageItem,
          label := some (labelOf (orElseText l.name ("Language " ++ natText (i + 1)))) }
    (fieldElement "span" "language-name" l.name (key ++ ["name"])
      ++ fieldElement "span" "language-level" l.level (key ++ ["level"]))

def certificationItem (i : Nat) (text : String) : List Element :=
  fieldElement "li" "certification" text ["certifications", natText i] .certificationItem

/-- Whether there is anything to show in a section. -/
def hasContent (content : Content) : SectionKind → Bool
  | .summary => (Text.unlessEmpty content.summary).isSome
  | .experience => !content.experience.isEmpty
  | .education => !content.education.isEmpty
  | .skills => !content.skills.isEmpty
  | .languages => !content.languages.isEmpty
  | .certifications => !content.certifications.isEmpty

/-- What a section shows under its title. -/
def sectionChildren (content : Content) (layout : LayoutTokens) : SectionKind → List Element
  | .summary => optionalField "p" "summary" content.summary ["summary"] .summary
  | .experience => mapIndexed (experienceItem layout) content.experience
  | .education => mapIndexed (educationItem layout) content.education
  | .skills =>
    [boxElement "div" ["skills-container"]
      (skillGroup layout .technical content.skills.technical
        ++ skillGroup layout .soft content.skills.soft)]
  | .languages =>
    [boxElement "div" ["languages-list"] (mapIndexed languageItem content.languages)]
  | .certifications =>
    [boxElement "ul" ["certifications-list"]
      (mapIndexed certificationItem content.certifications).flatten]

def isSidebarKind : SectionKind → Bool
  | .skills | .languages | .certifications => true
  | _ => false

def columnOf (layout : LayoutTokens) (kind : SectionKind) : Column :=
  if layout.page ≠ .singleColumn && isSidebarKind kind then .sidebar else .main

def sections (content : Content) (layout : LayoutTokens) : List SectionTree :=
  (layout.sectionOrder.filter (hasContent content)).map fun kind =>
    { kind, column := columnOf layout kind,
      root := sectionElement kind (sectionChildren content layout kind) }

end Assembly

/-- The tree of a document before ids and overrides. -/
def DocumentTree.assemble (content : Content) (layout : LayoutTokens) : DocumentTree :=
  ⟨Assembly.header content layout, Assembly.sections content layout⟩

end Vitae
