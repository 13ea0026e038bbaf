import Vitae.Document.Assembly
import Vitae.Proofs.Element.Markup

/-!
Assembled trees can be written and read back, whatever the content and the layout are: all names in
them are fixed, and texts stand only where any text may stand.
-/

namespace Vitae

namespace Element

theorem isVoid_of_isOrdinary {h : ElementHead} (ordinary : Html.isOrdinary h.tag) :
    h.isVoid = false := by
  rw [Bool.eq_false_iff]
  intro void
  have known := contains_voidNames_of_isVoid void
  simp only [Html.isOrdinary, Bool.and_eq_true, Bool.not_eq_true'] at ordinary
  exact absurd known (by rw [ordinary.1.2]; decide)

/-- An element with an end tag. -/
theorem isWritable_node {head : ElementHead} {children : List Element}
    (ordinary : Html.isOrdinary head.tag) (classes : ∀ cls ∈ head.classes, Text.isWord cls.toList)
    (names : ElementHead.ownsNames head.tag (head.attributes.map Prod.fst))
    (each : ∀ child ∈ children, child.IsWritable) : IsWritable (.node head children) := by
  have void := isVoid_of_isOrdinary ordinary
  refine .node head children (ElementHead.isWritable_of_ownsNames ?_ classes names) ?_ each
  · rw [void]
    exact ordinary
  · simp [void]

/-- Elements that can be read back, each of them. -/
def AreWritable (elements : List Element) : Prop := ∀ element ∈ elements, element.IsWritable

theorem areWritable_nil : AreWritable [] := by simp [AreWritable]

theorem areWritable_cons {element : Element} {elements : List Element} (h : element.IsWritable)
    (h' : AreWritable elements) : AreWritable (element :: elements) := by
  intro other mem
  rcases List.mem_cons.mp mem with rfl | mem
  · exact h
  · exact h' other mem

theorem areWritable_append {elements others : List Element} (h : AreWritable elements)
    (h' : AreWritable others) : AreWritable (elements ++ others) := by
  intro element mem
  rcases List.mem_append.mp mem with mem | mem
  · exact h element mem
  · exact h' element mem

end Element

theorem mem_mapIndexed {α β : Type} {f : Nat → α → β} {items : List α} {b : β} :
    b ∈ mapIndexed f items ↔ ∃ i a, items[i]? = some a ∧ f i a = b := by
  simp only [mapIndexed, List.mem_map, Prod.exists, List.mem_zipIdx_iff_getElem?]
  exact ⟨fun ⟨a, i, item, same⟩ => ⟨i, a, item, same⟩, fun ⟨i, a, item, same⟩ => ⟨a, i, item, same⟩⟩

theorem mem_flatten_mapIndexed {α β : Type} {f : Nat → α → List β} {items : List α} {b : β} :
    b ∈ (mapIndexed f items).flatten ↔ ∃ i a, items[i]? = some a ∧ b ∈ f i a := by
  rw [List.mem_flatten]
  constructor
  · rintro ⟨part, inside, mem⟩
    obtain ⟨i, a, item, rfl⟩ := mem_mapIndexed.mp inside
    exact ⟨i, a, item, mem⟩
  · rintro ⟨i, a, item, mem⟩
    exact ⟨f i a, mem_mapIndexed.mpr ⟨i, a, item, rfl⟩, mem⟩

open Element (AreWritable isWritable_node areWritable_nil areWritable_cons areWritable_append)

theorem areWritable_mapIndexed {α : Type} {f : Nat → α → Element}
    (h : ∀ i a, (f i a).IsWritable) (items : List α) : AreWritable (mapIndexed f items) := by
  intro element mem
  obtain ⟨i, a, -, rfl⟩ := mem_mapIndexed.mp mem
  exact h i a

theorem areWritable_flatten_mapIndexed {α : Type} {f : Nat → α → List Element}
    (h : ∀ i a, AreWritable (f i a)) (items : List α) :
    AreWritable (mapIndexed f items).flatten := by
  intro element mem
  obtain ⟨i, a, -, mem⟩ := mem_flatten_mapIndexed.mp mem
  exact h i a element mem

/-- The tags that texts and boxes are laid out with. -/
def layoutTags : List String :=
  ["div", "span", "p", "h1", "h2", "h3", "h4", "ul", "li", "section", "header"]

theorem isOrdinary_of_mem {tag : String} (mem : tag ∈ layoutTags) : Html.isOrdinary tag := by
  have each : ∀ tag ∈ layoutTags, Html.isOrdinary tag = true := by decide
  exact each tag mem

/-- An element with a known tag and no attributes of its own. -/
theorem isWritable_known {head : ElementHead} {children : List Element}
    (known : head.tag ∈ layoutTags) (classes : ∀ cls ∈ head.classes, Text.isWord cls.toList)
    (none : head.attributes = []) (each : AreWritable children) :
    Element.IsWritable (.node head children) :=
  isWritable_node (isOrdinary_of_mem known) classes (by rw [none]; rfl) each

theorem areWritable_fieldElement {tag cls : String} (known : tag ∈ layoutTags)
    (word : Text.isWord cls.toList) (text : String) (path : List String) (type : ElementType) :
    AreWritable (fieldElement tag cls text path type) := by
  unfold fieldElement
  split
  · exact areWritable_nil
  · exact areWritable_cons (isWritable_known known (by simpa using word) rfl
      areWritable_nil) areWritable_nil

theorem isWritable_boxElement {tag : String} {classes : List String} {children : List Element}
    (known : tag ∈ layoutTags) (words : ∀ cls ∈ classes, Text.isWord cls.toList)
    (each : AreWritable children) : (boxElement tag classes children).IsWritable :=
  isWritable_known known words rfl each

namespace Assembly

theorem isWritable_icon (field : ContactField) : field.icon.IsWritable := by
  refine isWritable_node (by decide : Html.isOrdinary "svg") (by decide) (by decide) ?_
  intro element mem
  obtain ⟨⟨tag, attributes⟩, stroke, rfl⟩ := List.mem_map.mp mem
  have each : ∀ stroke ∈ field.strokes, Html.isOrdinary stroke.1 = true
      ∧ ElementHead.ownsNames stroke.1 (stroke.2.map Prod.fst) = true := by
    cases field <;> decide
  obtain ⟨ordinary, names⟩ := each _ stroke
  exact isWritable_node ordinary (by simp) names areWritable_nil

theorem areWritable_photo (content : Content) (layout : LayoutTokens) :
    AreWritable (photo content layout) := by
  unfold photo
  split
  case h_1 url avatar =>
    split
    · have image : Element.IsWritable
          (.node { tag := "img", classes := ["avatar"],
                    attributes := [("src", url), ("alt", content.fullName)] } []) := by
        have tag : Token.isTagName "img" := by decide
        have classes : ∀ cls ∈ ["avatar"], Text.isWord cls.toList := by decide
        have names : ElementHead.ownsNames "img" ["src", "alt"] := by decide
        exact .node _ _ (ElementHead.isWritable_of_ownsNames tag classes names)
          (fun _ => ⟨rfl, rfl⟩) (by simp)
      exact areWritable_cons (isWritable_known (by simp [layoutTags]) (by decide) rfl
        (areWritable_cons image areWritable_nil)) areWritable_nil
    · exact areWritable_nil
  case h_2 => exact areWritable_nil

theorem isWritable_nameElement (content : Content) : (nameElement content).IsWritable :=
  isWritable_known (by simp [layoutTags]) (by decide : ∀ cls ∈ ["name"], _) rfl
    areWritable_nil

theorem isWritable_contactItem (layout : LayoutTokens) (item : ContactField × String) :
    (contactItem layout item).IsWritable := by
  obtain ⟨field, value⟩ := item
  have span : "span" ∈ layoutTags := by decide
  have classes : ∀ cls ∈ ["contact-" ++ field.word], Text.isWord cls.toList := by
    cases field <;> decide
  unfold contactItem
  dsimp only
  split
  · have text : Element.IsWritable
        (.node { tag := "span", classes := ["contact-text"], text := some value } []) :=
      isWritable_known span (by decide : ∀ cls ∈ ["contact-text"], _) rfl areWritable_nil
    exact isWritable_known span classes rfl
      (areWritable_cons (isWritable_icon field) (areWritable_cons text areWritable_nil))
  · exact isWritable_known span classes rfl areWritable_nil

theorem areWritable_contactBlock (content : Content) (layout : LayoutTokens) :
    AreWritable (contactBlock content layout) := by
  unfold contactBlock
  dsimp only
  split
  · exact areWritable_nil
  · have classes : ∀ cls ∈ ["contact", "contact-" ++ layout.contactLayout.word],
        Text.isWord cls.toList := by
      cases layout.contactLayout <;> decide
    refine areWritable_cons (isWritable_known (by simp [layoutTags]) classes rfl ?_)
      areWritable_nil
    intro element mem
    obtain ⟨item, -, rfl⟩ := List.mem_map.mp mem
    exact isWritable_contactItem layout item

theorem words_headerClasses (layout : LayoutTokens) :
    ∀ cls ∈ headerClasses layout, Text.isWord cls.toList := by
  have variant : ∀ cls ∈ ["cv-header", "header-" ++ layout.headerVariant.word],
      Text.isWord cls.toList := by
    cases layout.headerVariant <;> decide
  have bleed : ∀ cls ∈ ["header-full-bleed"], Text.isWord cls.toList := by decide
  intro cls mem
  unfold headerClasses at mem
  rcases List.mem_append.mp mem with mem | mem
  · exact variant cls mem
  · split at mem
    · exact bleed cls mem
    · simp at mem

theorem isWritable_header (content : Content) (layout : LayoutTokens) :
    (header content layout).IsWritable := by
  have headline : AreWritable
      (optionalField "p" "headline" content.headline ["header", "headline"] .headerField) :=
    areWritable_fieldElement (by decide) (by decide) _ _ _
  have identity : (boxElement "div" ["header-identity"] (nameElement content
      :: optionalField "p" "headline" content.headline ["header", "headline"]
        .headerField)).IsWritable :=
    isWritable_boxElement (by decide) (by decide)
      (areWritable_cons (isWritable_nameElement content) headline)
  exact isWritable_known (by simp [layoutTags]) (words_headerClasses layout) rfl
    (areWritable_append (areWritable_append (areWritable_photo content layout)
      (areWritable_cons identity areWritable_nil)) (areWritable_contactBlock content layout))

theorem words_itemClasses (layout : LayoutTokens) :
    ∀ cls ∈ ["item", itemClass layout.sectionStyle], Text.isWord cls.toList := by
  cases layout.sectionStyle <;> decide

/-- The head of an item, with the main text and the one below it, and what stands beside them. -/
theorem isWritable_itemHeader {heading beside : List Element} (h : AreWritable heading)
    (h' : AreWritable beside) : (boxElement "div" ["item-header"]
      (boxElement "div" ["item-heading"] heading :: beside)).IsWritable :=
  isWritable_boxElement (by decide) (by decide)
    (areWritable_cons (isWritable_boxElement (by decide) (by decide) h) h')

theorem areWritable_highlightElements (layout : LayoutTokens) (key highlights : List String) :
    AreWritable (highlightElements layout key highlights) := by
  unfold highlightElements
  split
  · exact areWritable_nil
  · split
    · exact areWritable_fieldElement (by decide) (by decide) _ _ _
    · refine areWritable_cons (isWritable_known (by simp [layoutTags])
        (by decide : ∀ cls ∈ ["highlights"], _) rfl ?_) areWritable_nil
      exact areWritable_flatten_mapIndexed
        (fun _ _ => areWritable_fieldElement (by decide) (by decide) _ _ _) highlights

theorem isWritable_experienceItem (layout : LayoutTokens) (i : Nat) (e : Experience) :
    (experienceItem layout i e).IsWritable := by
  have field (tag cls text : String) (path : List String) (known : tag ∈ layoutTags)
      (word : Text.isWord cls.toList) : AreWritable (fieldElement tag cls text path) :=
    areWritable_fieldElement known word text path .field
  refine isWritable_known (by simp [layoutTags, itemHead]) (words_itemClasses layout) rfl ?_
  refine areWritable_cons (isWritable_itemHeader (areWritable_append ?_ ?_) ?_)
    (areWritable_highlightElements layout _ _)
  all_goals exact field _ _ _ _ (by decide) (by decide)

theorem isWritable_educationItem (layout : LayoutTokens) (i : Nat) (e : Education) :
    (educationItem layout i e).IsWritable := by
  have field (tag cls text : String) (path : List String) (known : tag ∈ layoutTags)
      (word : Text.isWord cls.toList) : AreWritable (fieldElement tag cls text path) :=
    areWritable_fieldElement known word text path .field
  refine isWritable_known (by simp [layoutTags, itemHead]) (words_itemClasses layout) rfl ?_
  refine areWritable_cons (isWritable_itemHeader (areWritable_append ?_ ?_) ?_) ?_
  all_goals exact field _ _ _ _ (by decide) (by decide)

theorem areWritable_skillGroup (layout : LayoutTokens) (category : SkillCategory)
    (skills : List String) : AreWritable (skillGroup layout category skills) := by
  unfold skillGroup
  split
  · exact areWritable_nil
  · have classes : ∀ cls ∈ skillClass layout.skillsDisplay
        :: (if category = .soft then ["soft"] else []), Text.isWord cls.toList := by
      cases layout.skillsDisplay <;> cases category <;> decide
    have display : ∀ cls ∈ ["skills-list", "skills-" ++ layout.skillsDisplay.word],
        Text.isWord cls.toList := by
      cases layout.skillsDisplay <;> decide
    have label : Element.IsWritable
        (.node { tag := "h4", classes := ["skills-label"], text := some category.title } []) :=
      isWritable_known (by simp [layoutTags]) (by decide : ∀ cls ∈ ["skills-label"], _)
        rfl areWritable_nil
    refine areWritable_cons (isWritable_known (by simp [layoutTags])
      (by decide : ∀ cls ∈ ["skills-category"], _) rfl ?_) areWritable_nil
    refine areWritable_cons label (areWritable_cons (isWritable_boxElement (by decide) display ?_)
      areWritable_nil)
    exact areWritable_mapIndexed (fun _ _ =>
      isWritable_known (by simp [layoutTags]) classes rfl areWritable_nil) skills

theorem isWritable_languageItem (i : Nat) (l : SpokenLanguage) :
    (languageItem i l).IsWritable := by
  refine isWritable_known (by simp [layoutTags])
    (by decide : ∀ cls ∈ ["language-item"], _) rfl (areWritable_append ?_ ?_)
  all_goals exact areWritable_fieldElement (by decide) (by decide) _ _ _

theorem areWritable_sectionChildren (content : Content) (layout : LayoutTokens)
    (kind : SectionKind) : AreWritable (sectionChildren content layout kind) := by
  cases kind with
  | summary => exact areWritable_fieldElement (by decide) (by decide) _ _ _
  | experience => exact areWritable_mapIndexed (isWritable_experienceItem layout) _
  | education => exact areWritable_mapIndexed (isWritable_educationItem layout) _
  | skills =>
    exact areWritable_cons (isWritable_boxElement (by decide) (by decide)
      (areWritable_append (areWritable_skillGroup layout _ _)
        (areWritable_skillGroup layout _ _))) areWritable_nil
  | languages =>
    exact areWritable_cons (isWritable_boxElement (by decide) (by decide)
      (areWritable_mapIndexed isWritable_languageItem _)) areWritable_nil
  | certifications =>
    refine areWritable_cons (isWritable_boxElement (by decide) (by decide) ?_) areWritable_nil
    exact areWritable_flatten_mapIndexed
      (fun _ _ => areWritable_fieldElement (by decide) (by decide) _ _ _) _

theorem isWritable_sectionElement (kind : SectionKind) {children : List Element}
    (h : AreWritable children) : (sectionElement kind children).IsWritable := by
  have classes : ∀ cls ∈ ["cv-section", "section-" ++ kind.word], Text.isWord cls.toList := by
    cases kind <;> decide
  exact isWritable_known (by simp [layoutTags]) classes rfl
    (areWritable_cons (isWritable_known (by simp [layoutTags])
      (by decide : ∀ cls ∈ ["section-title"], _) rfl areWritable_nil) h)

end Assembly

/-- Every tree of an assembled document can be written and read back. -/
theorem DocumentTree.areWritable_assemble (content : Content) (layout : LayoutTokens) :
    AreWritable (DocumentTree.assemble content layout).roots := by
  refine areWritable_cons (Assembly.isWritable_header content layout) ?_
  intro element mem
  simp only [assemble, Assembly.sections, List.map_map, List.mem_map] at mem
  obtain ⟨kind, -, rfl⟩ := mem
  exact Assembly.isWritable_sectionElement kind
    (Assembly.areWritable_sectionChildren content layout kind)

end Vitae
