import Vitae.Proofs.Document.Amendment
import Vitae.Proofs.Document.Catalogue
import Vitae.Proofs.Element.Label

/-!
What assembly puts in the heads of a tree. No head has an id or is hidden, all tags and names of
attributes are fixed, and every addressed head has a label and the type that its id suggests.
-/

namespace Vitae

open Decimal (natText)
open Element (walkAll)
open ElementId (IsPlain ofPath)

/-! Types and paths -/

/-- A path whose id is there and tells the type. -/
structure ElementId.Suggests (path : List String) (type : ElementType) : Prop where
  plain : IsPlain path
  given : (ofPath path).isEmpty = false
  inferred : type = .infer (ofPath path)

namespace ElementId.Suggests

open Catalogue (arePlain_of_all arePlain_cons arePlain_natText)

theorem of_all {path : List String} {type : ElementType}
    (bare : path.all fun piece => piece.toList.all (· != '-'))
    (given : (ofPath path).isEmpty = false) (inferred : type = .infer (ofPath path)) :
    Suggests path type := by
  refine ⟨⟨?_, arePlain_of_all bare⟩, given, inferred⟩
  rintro rfl
  exact absurd given (by decide)

/-- By the pieces of a path whose id is not that of a section. -/
theorem of_pieces {first second : String} {rest : List String} {type : ElementType}
    (plain : IsPlain (first :: second :: rest)) (apart : first ≠ "section")
    (told : ElementType.inferFromPieces (ofPath (first :: second :: rest))
      (first :: second :: rest) = type) : Suggests (first :: second :: rest) type where
  plain := plain
  given := by
    rw [Bool.eq_false_iff, ne_eq, String.isEmpty_iff]
    exact ElementId.ofPath_ne plain (by simp [Lacks])
  inferred := by rw [ElementType.infer_ofPath plain apart, told]

theorem contact (field : ContactField) : Suggests ["header", field.word] .headerField := by
  cases field <;> exact of_all (by decide) (by decide) (by decide)

theorem root (kind : SectionKind) : Suggests ["section", kind.word] .sectionBlock := by
  cases kind <;> exact of_all (by decide) (by decide) (by decide)

theorem title (kind : SectionKind) : Suggests ["section", kind.word, "title"] .sectionTitle := by
  cases kind <;> exact of_all (by decide) (by decide) (by decide)

theorem skillGroup (category : Assembly.SkillCategory) :
    Suggests ["skills", category.word] .skillGroup := by
  cases category <;> exact of_all (by decide) (by decide) (by decide)

theorem skill (category : Assembly.SkillCategory) (i : Nat) :
    Suggests ["skills", category.word, natText i] .skillTag := by
  have plain : IsPlain ["skills", category.word, natText i] := ⟨by simp,
    arePlain_cons (arePlain_of_all (by decide))
      (arePlain_cons (Catalogue.arePlain_category category) (arePlain_natText i))⟩
  exact of_pieces plain (by decide) rfl

/-- What is below an index is plain if the rest is. -/
theorem isPlain_indexed {piece : String} (bare : [piece].all fun s => s.toList.all (· != '-'))
    (i : Nat) {rest : List String} (below : Catalogue.ArePlain rest) :
    IsPlain (piece :: natText i :: rest) :=
  ⟨by simp, arePlain_cons (arePlain_of_all bare) (arePlain_cons (arePlain_natText i) below)⟩

theorem item {piece : String} {type : ElementType}
    (known : ElementType.ofItemPiece? piece = some type) (i : Nat) :
    Suggests [piece, natText i] type := by
  have none : Catalogue.ArePlain [] := arePlain_of_all (by decide)
  unfold ElementType.ofItemPiece? at known
  split at known
  · exact of_pieces (isPlain_indexed (by decide) i none) (by decide) (Option.some.inj known)
  · exact of_pieces (isPlain_indexed (by decide) i none) (by decide) (Option.some.inj known)
  · exact of_pieces (isPlain_indexed (by decide) i none) (by decide) (Option.some.inj known)
  · exact of_pieces (isPlain_indexed (by decide) i none) (by decide) (Option.some.inj known)
  · contradiction

/-- A field of an item. In an experience a numeral would tell a highlight instead. -/
theorem field {piece word : String} (known : piece ∈ ["experience", "education", "languages"])
    (bare : [word].all fun s => s.toList.all (· != '-'))
    (other : ElementType.isNumeral word = false) (i : Nat) :
    Suggests [piece, natText i, word] .field := by
  have below : Catalogue.ArePlain [word] := arePlain_of_all bare
  simp only [List.mem_cons, List.not_mem_nil, or_false] at known
  rcases known with rfl | rfl | rfl
  · exact of_pieces (isPlain_indexed (by decide) i below) (by decide)
      (by simp [ElementType.inferFromPieces, other])
  · exact of_pieces (isPlain_indexed (by decide) i below) (by decide) rfl
  · exact of_pieces (isPlain_indexed (by decide) i below) (by decide) rfl

theorem highlight (i j : Nat) : Suggests ["experience", natText i, natText j] .highlight :=
  of_pieces (isPlain_indexed (by decide) i (arePlain_natText j)) (by decide)
    (by simp [ElementType.inferFromPieces, ElementType.isNumeral_natText])

end ElementId.Suggests

/-! Heads -/

/-- A head that has no id yet and is not hidden. -/
structure ElementHead.IsFresh (h : ElementHead) : Prop where
  id : h.id = none
  shown : h.hidden = false

namespace Assembly

/-- The tags of what is drawn, apart from those that texts are laid out with. -/
def drawnTags : List String := ["img", "svg", "rect", "path", "circle"]

/-- The names of the attributes that are not reserved. -/
def ownNames : List String :=
  ["src", "alt", "aria-hidden", "fill", "stroke", "stroke-linecap", "stroke-linejoin",
    "stroke-width", "viewBox", "width", "height", "x", "y", "rx", "d", "cx", "cy", "r"]

/-- A head that can be selected: it tells what it is, and what it says if the content says
something. -/
structure IsSelectable (content : Content) (h : ElementHead) (path : List String)
    (type : ElementType) : Prop where
  typed : h.type = some type
  suggested : ElementId.Suggests path type
  label : ∃ label, h.label = some label
    ∧ (content.IsSpoken → Says content.fullName → label.isEmpty = false)

/-- A head as assembly makes it. -/
structure IsMade (content : Content) (h : ElementHead) : Prop where
  fresh : h.IsFresh
  tag : h.tag ∈ layoutTags ++ drawnTags
  own : ∀ pair ∈ h.attributes, pair.1 ∈ ownNames
  selectable : ∀ path ∈ h.path, ∃ type, IsSelectable content h path type

/-- Elements whose heads are all made by assembly. -/
def AreMade (content : Content) (elements : List Element) : Prop :=
  ∀ h ∈ walkAll elements, IsMade content h

variable {content : Content} {layout : LayoutTokens}

theorem areMade_nil : AreMade content [] := by simp [AreMade, walkAll]

theorem areMade_append {elements others : List Element} (h : AreMade content elements)
    (h' : AreMade content others) : AreMade content (elements ++ others) := by
  intro head mem
  rw [Element.walkAll_append, List.mem_append] at mem
  exact mem.elim (h head) (h' head)

theorem areMade_cons {element : Element} {elements : List Element} (h : AreMade content [element])
    (h' : AreMade content elements) : AreMade content (element :: elements) :=
  areMade_append h h'

theorem areMade_node {head : ElementHead} {children : List Element} (h : IsMade content head)
    (below : AreMade content children) : AreMade content [.node head children] := by
  intro other mem
  simp only [walkAll, Element.walk, List.append_nil, List.mem_cons] at mem
  rcases mem with rfl | mem
  · exact h
  · exact below other mem

theorem areMade_of_each {elements : List Element}
    (h : ∀ element ∈ elements, AreMade content [element]) : AreMade content elements := by
  intro head mem
  obtain ⟨element, inside, mem⟩ := Element.exists_of_mem_walkAll mem
  exact h element inside head (by simpa [walkAll] using mem)

theorem areMade_mapIndexed {α : Type} {f : Nat → α → Element} {items : List α}
    (h : ∀ i, ∀ a ∈ items, AreMade content [f i a]) : AreMade content (mapIndexed f items) := by
  apply areMade_of_each
  intro element mem
  obtain ⟨i, a, item, rfl⟩ := mem_mapIndexed.mp mem
  exact h i a (List.mem_of_getElem? item)

theorem areMade_flatten_mapIndexed {α : Type} {f : Nat → α → List Element} {items : List α}
    (h : ∀ i, ∀ a ∈ items, AreMade content (f i a)) :
    AreMade content (mapIndexed f items).flatten := by
  apply areMade_of_each
  intro element mem
  obtain ⟨i, a, item, inside⟩ := mem_flatten_mapIndexed.mp mem
  intro head below
  exact h i a (List.mem_of_getElem? item) head
    (Element.walk_subset_walkAll inside (by simpa [walkAll] using below))

/-- A head for the layout, with or without a text. -/
theorem isMade_plain {tag : String} (known : tag ∈ layoutTags) (classes : List String)
    (text : Option String) : IsMade content { tag, classes, text } where
  fresh := ⟨rfl, rfl⟩
  tag := List.mem_append_left _ known
  own := by simp
  selectable := by simp

theorem isMade_drawn {tag : String} {attributes : List (String × String)} (known : tag ∈ drawnTags)
    (classes : List String) (own : ∀ pair ∈ attributes, pair.1 ∈ ownNames) :
    IsMade content { tag, classes, attributes } where
  fresh := ⟨rfl, rfl⟩
  tag := List.mem_append_right _ known
  own := own
  selectable := by simp

theorem isMade_addressed {tag : String} {path : List String} {type : ElementType} {label : String}
    (known : tag ∈ layoutTags) (classes : List String) (text : Option String) (required : Bool)
    (suggested : ElementId.Suggests path type)
    (said : content.IsSpoken → Says content.fullName → label.isEmpty = false) :
    IsMade content { tag, classes, text, path := some path, type := some type, label := some label,
                     required } where
  fresh := ⟨rfl, rfl⟩
  tag := List.mem_append_left _ known
  own := by simp
  selectable := by
    rintro _ ⟨⟩
    exact ⟨type, rfl, suggested, label, rfl, said⟩

theorem areMade_boxElement {tag : String} {classes : List String} {children : List Element}
    (known : tag ∈ layoutTags) (h : AreMade content children) :
    AreMade content [boxElement tag classes children] :=
  areMade_node (isMade_plain known classes none) h

theorem areMade_fieldElement {tag cls text : String} {path : List String} {type : ElementType}
    (known : tag ∈ layoutTags) (suggested : ElementId.Suggests path type)
    (said : content.IsSpoken → text.isEmpty ∨ Says text) :
    AreMade content (fieldElement tag cls text path type) := by
  unfold fieldElement
  split
  · exact areMade_nil
  · next some =>
    refine areMade_node (isMade_addressed known _ _ false suggested fun spoken _ => ?_) areMade_nil
    exact ((said spoken).resolve_left some).labelOf

theorem areMade_optionalField {tag cls : String} {text : Option String} {path : List String}
    {type : ElementType} (known : tag ∈ layoutTags) (suggested : ElementId.Suggests path type)
    (said : content.IsSpoken → ∀ s ∈ text, Says s) :
    AreMade content (optionalField tag cls text path type) := by
  refine areMade_fieldElement known suggested fun spoken => ?_
  cases text with
  | none => exact .inl rfl
  | some s => exact .inr (said spoken s rfl)

/-! The header -/

theorem areMade_photo : AreMade content (photo content layout) := by
  unfold photo
  split
  · split
    · have image (url : String) : AreMade content [.node
          { tag := "img", classes := ["avatar"],
            attributes := [("src", url), ("alt", content.fullName)] } []] :=
        areMade_node (isMade_drawn (by decide) _ (by simp [ownNames])) areMade_nil
      exact areMade_node (isMade_addressed (by decide) _ none false
        (.of_all (by decide) (by decide) (by decide)) fun _ _ => by decide) (image _)
    · exact areMade_nil
  · exact areMade_nil

theorem areMade_icon (field : ContactField) : AreMade content [field.icon] := by
  have strokes : ∀ stroke ∈ field.strokes, stroke.1 ∈ drawnTags
      ∧ ∀ pair ∈ stroke.2, pair.1 ∈ ownNames := by
    cases field <;> decide
  refine areMade_node (isMade_drawn (by decide) _ (by decide))
    (areMade_of_each fun element mem => ?_)
  obtain ⟨stroke, inside, rfl⟩ := List.mem_map.mp mem
  obtain ⟨tag, own⟩ := strokes stroke inside
  exact areMade_node (isMade_drawn tag [] own) areMade_nil

theorem areMade_contactItem {item : ContactField × String} (said : content.IsSpoken → Says item.2) :
    AreMade content [contactItem layout item] := by
  obtain ⟨field, value⟩ := item
  have label : content.IsSpoken → Says content.fullName → (labelOf value).isEmpty = false :=
    fun spoken _ => (said spoken).labelOf
  have text : AreMade content
      [.node { tag := "span", classes := ["contact-text"], text := some value } []] :=
    areMade_node (isMade_plain (by decide) _ _) areMade_nil
  unfold contactItem
  dsimp only
  split
  · exact areMade_node (isMade_addressed (by decide) _ none false (.contact field) label)
      (areMade_cons (areMade_icon field) text)
  · exact areMade_node (isMade_addressed (by decide) _ _ false (.contact field) label)
      areMade_nil

theorem areMade_contactBlock : AreMade content (contactBlock content layout) := by
  unfold contactBlock
  dsimp only
  split
  · exact areMade_nil
  · refine areMade_node (isMade_addressed (by decide) _ none false
      (.of_all (by decide) (by decide) (by decide)) fun _ _ => by decide)
      (areMade_of_each fun element mem => ?_)
    obtain ⟨item, inside, rfl⟩ := List.mem_map.mp mem
    refine areMade_contactItem fun spoken => ?_
    cases given : content.contact with
    | none => simp [given] at inside
    | some contact =>
      simp only [given, Option.map_some, Option.getD_some, Contact.items, List.mem_filterMap,
        Option.map_eq_some_iff] at inside
      obtain ⟨field, -, value, set, rfl⟩ := inside
      exact spoken.contact contact given field value (Text.unlessEmpty_eq_some_iff.mp set).1

theorem areMade_header : AreMade content [header content layout] := by
  have name : AreMade content [nameElement content] :=
    areMade_node (isMade_addressed (by decide) _ _ true
      (.of_all (by decide) (by decide) (by decide)) fun _ named => named.labelOf) areMade_nil
  have headline : AreMade content
      (optionalField "p" "headline" content.headline ["header", "headline"] .headerField) :=
    areMade_optionalField (by decide) (.of_all (by decide) (by decide) (by decide))
      fun spoken => spoken.headline
  exact areMade_node (isMade_addressed (by decide) _ none true
      (.of_all (by decide) (by decide) (by decide)) fun _ _ => by decide)
    (areMade_append (areMade_append areMade_photo
      (areMade_boxElement (by decide) (areMade_cons name headline))) areMade_contactBlock)

/-! Sections -/

theorem areMade_itemHeader {heading beside : List Element} (h : AreMade content heading)
    (h' : AreMade content beside) : AreMade content [boxElement "div" ["item-header"]
      (boxElement "div" ["item-heading"] heading :: beside)] :=
  areMade_boxElement (by decide) (areMade_cons (areMade_boxElement (by decide) h) h')

/-- An item is labelled by its two main texts, or else by its number. -/
theorem isMade_itemHead {piece fallback : String} {type : ElementType} {texts : List String}
    (known : ElementType.ofItemPiece? piece = some type) (i : Nat)
    (said : content.IsSpoken → ∀ s ∈ texts, s.isEmpty ∨ Says s) (numbered : Says fallback) :
    IsMade content (itemHead layout type [piece, natText i] texts fallback) :=
  isMade_addressed (by decide) _ none false (.item known i) fun spoken _ =>
    (says_orElseText (isEmpty_or_says_joinPresent _ (said spoken)) numbered).labelOf

theorem areMade_highlightElements (i : Nat) {highlights : List String}
    (said : content.IsSpoken → ∀ s ∈ highlights, Says s) :
    AreMade content (highlightElements layout ["experience", natText i] highlights) := by
  unfold highlightElements
  split
  · exact areMade_nil
  · next some =>
    have given : highlights ≠ [] := by simpa using some
    split
    · exact areMade_fieldElement (by decide) (.field (by decide) (by decide) (by decide) i)
        fun spoken => .inr (says_intercalate _ given (said spoken))
    · refine areMade_node (isMade_addressed (by decide) _ none false
        (.field (by decide) (by decide) (by decide) i) fun _ _ => by decide)
        (areMade_flatten_mapIndexed fun j s mem => ?_)
      exact areMade_fieldElement (by decide) (.highlight i j) fun spoken => .inr (said spoken s mem)

theorem areMade_experienceItem (i : Nat) {e : Experience} (inside : e ∈ content.experience) :
    AreMade content [experienceItem layout i e] := by
  have said (spoken : content.IsSpoken) : (e.title.isEmpty ∨ Says e.title)
      ∧ (e.company.isEmpty ∨ Says e.company) ∧ (e.period.isEmpty ∨ Says e.period) := by
    simpa using spoken.positions e inside
  have field {tag cls text word : String} (known : tag ∈ layoutTags)
      (bare : [word].all fun s => s.toList.all (· != '-'))
      (other : ElementType.isNumeral word = false)
      (said : content.IsSpoken → text.isEmpty ∨ Says text) :
      AreMade content (fieldElement tag cls text ["experience", natText i, word]) :=
    areMade_fieldElement known (.field (by decide) bare other i) said
  have place (spoken : content.IsSpoken) :
      (joinPresent ", " [e.company, e.location.getD ""]).isEmpty
      ∨ Says (joinPresent ", " [e.company, e.location.getD ""]) := by
    apply isEmpty_or_says_joinPresent
    have located : (e.location.getD "").isEmpty ∨ Says (e.location.getD "") := by
      cases given : e.location with
      | none => exact .inl rfl
      | some s => exact .inr (spoken.locations e inside s given)
    have both := And.intro (said spoken).2.1 located
    simpa using both
  refine areMade_node (isMade_itemHead rfl i (fun spoken => ?_)
    (says_append_left (by decide) _)) (areMade_cons (areMade_itemHeader (areMade_append ?_ ?_) ?_)
      (areMade_highlightElements i fun spoken => spoken.highlights e inside))
  · have both := And.intro (said spoken).1 (said spoken).2.1
    simpa using both
  · exact field (by decide) (by decide) (by decide) fun spoken => (said spoken).1
  · exact field (by decide) (by decide) (by decide) place
  · exact field (by decide) (by decide) (by decide) fun spoken => (said spoken).2.2

theorem areMade_educationItem (i : Nat) {e : Education} (inside : e ∈ content.education) :
    AreMade content [educationItem layout i e] := by
  have said (spoken : content.IsSpoken) : (e.degree.isEmpty ∨ Says e.degree)
      ∧ (e.institution.isEmpty ∨ Says e.institution) ∧ (e.year.isEmpty ∨ Says e.year) := by
    simpa using spoken.studies e inside
  have field {tag cls text word : String} (known : tag ∈ layoutTags)
      (bare : [word].all fun s => s.toList.all (· != '-'))
      (other : ElementType.isNumeral word = false)
      (said : content.IsSpoken → text.isEmpty ∨ Says text) :
      AreMade content (fieldElement tag cls text ["education", natText i, word]) :=
    areMade_fieldElement known (.field (by decide) bare other i) said
  have details : AreMade content (optionalField "p" "item-details" e.details
      ["education", natText i, "details"]) :=
    areMade_optionalField (by decide) (.field (by decide) (by decide) (by decide) i)
      fun spoken => spoken.details e inside
  refine areMade_node (isMade_itemHead rfl i (fun spoken => ?_)
    (says_append_left (by decide) _)) (areMade_cons (areMade_itemHeader (areMade_append ?_ ?_) ?_)
      details)
  · have both := And.intro (said spoken).1 (said spoken).2.1
    simpa using both
  · exact field (by decide) (by decide) (by decide) fun spoken => (said spoken).1
  · exact field (by decide) (by decide) (by decide) fun spoken => (said spoken).2.1
  · exact field (by decide) (by decide) (by decide) fun spoken => (said spoken).2.2

theorem areMade_skillGroup (category : SkillCategory) {skills : List String}
    (said : content.IsSpoken → ∀ s ∈ skills, Says s) :
    AreMade content (skillGroup layout category skills) := by
  unfold skillGroup
  split
  · exact areMade_nil
  · have title : category.title.isEmpty = false := by cases category <;> decide
    refine areMade_node (isMade_addressed (by decide) _ none false (.skillGroup category)
      fun _ _ => title) (areMade_cons (areMade_node (isMade_plain (by decide) _ _) areMade_nil)
        (areMade_boxElement (by decide) (areMade_mapIndexed fun i s mem => ?_)))
    exact areMade_node (isMade_addressed (by decide) _ _ false (.skill category i)
      fun spoken _ => (said spoken s mem).labelOf) areMade_nil

theorem areMade_languageItem (i : Nat) {l : SpokenLanguage} (inside : l ∈ content.languages) :
    AreMade content [languageItem i l] := by
  have said (spoken : content.IsSpoken) :
      (l.name.isEmpty ∨ Says l.name) ∧ (l.level.isEmpty ∨ Says l.level) := by
    simpa using spoken.languages l inside
  have field {cls text word : String} (bare : [word].all fun s => s.toList.all (· != '-'))
      (other : ElementType.isNumeral word = false)
      (said : content.IsSpoken → text.isEmpty ∨ Says text) :
      AreMade content (fieldElement "span" cls text ["languages", natText i, word]) :=
    areMade_fieldElement (by decide) (.field (by decide) bare other i) said
  refine areMade_node (isMade_addressed (by decide) _ none false (.item rfl i) fun spoken _ => ?_)
    (areMade_append ?_ ?_)
  · exact (says_orElseText (said spoken).1 (says_append_left (by decide) _)).labelOf
  · exact field (by decide) (by decide) fun spoken => (said spoken).1
  · exact field (by decide) (by decide) fun spoken => (said spoken).2

theorem areMade_sectionChildren (kind : SectionKind) :
    AreMade content (sectionChildren content layout kind) := by
  cases kind with
  | summary =>
    exact areMade_optionalField (by decide) (.of_all (by decide) (by decide) (by decide))
      fun spoken => spoken.summary
  | experience => exact areMade_mapIndexed fun i e inside => areMade_experienceItem i inside
  | education => exact areMade_mapIndexed fun i e inside => areMade_educationItem i inside
  | skills =>
    exact areMade_boxElement (by decide)
      (areMade_append (areMade_skillGroup .technical fun spoken => spoken.technical)
        (areMade_skillGroup .soft fun spoken => spoken.soft))
  | languages =>
    exact areMade_boxElement (by decide)
      (areMade_mapIndexed fun i l inside => areMade_languageItem i inside)
  | certifications =>
    refine areMade_boxElement (by decide) (areMade_flatten_mapIndexed fun i s inside => ?_)
    exact areMade_fieldElement (by decide) (.item rfl i)
      fun spoken => .inr (spoken.certifications s inside)

theorem areMade_sectionElement (kind : SectionKind) :
    AreMade content [sectionElement kind (sectionChildren content layout kind)] := by
  have title : (sectionTitle kind).isEmpty = false
      ∧ (sectionTitle kind ++ " Section").isEmpty = false := by
    cases kind <;> decide
  exact areMade_node (isMade_addressed (by decide) _ none false (.root kind) fun _ _ => title.2)
    (areMade_cons (areMade_node (isMade_addressed (by decide) _ _ false (.title kind)
      fun _ _ => title.1) areMade_nil) (areMade_sectionChildren kind))

end Assembly

theorem DocumentTree.areMade_assemble (content : Content) (layout : LayoutTokens) :
    Assembly.AreMade content (assemble content layout).roots := by
  refine Assembly.areMade_cons Assembly.areMade_header
    (Assembly.areMade_of_each fun element mem => ?_)
  simp only [assemble, Assembly.sections, List.map_map, List.mem_map] at mem
  obtain ⟨kind, -, rfl⟩ := mem
  exact Assembly.areMade_sectionElement kind

end Vitae
