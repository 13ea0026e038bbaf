import Vitae.Proofs.Document.Heads

/-!
The labels of a document. Whatever the content says and however long its texts are, the label of
every element is short and spaced, and an element that is addressed has one that says something.
-/

namespace Vitae

open Decimal (natText)

namespace Element

/-- A tree whose labels all have the form of labels. -/
def IsLabelled (element : Element) : Prop :=
  ∀ h ∈ element.walk, ∀ label ∈ h.label, IsLabel label.toList

theorem isLabelled_node {head : ElementHead} {children : List Element} :
    (node head children).IsLabelled ↔ (∀ label ∈ head.label, IsLabel label.toList)
      ∧ ∀ child ∈ children, child.IsLabelled := by
  rw [IsLabelled, walk, List.forall_mem_cons]
  refine and_congr_right fun _ => ⟨fun below child inside h mem => ?_, fun each h mem => ?_⟩
  · exact below h (walk_subset_walkAll inside mem)
  · obtain ⟨child, inside, mem⟩ := exists_of_mem_walkAll mem
    exact each child inside h mem

theorem isLabelled_of_label {head : ElementHead} {children : List Element} {label : String}
    (given : head.label = some label) (form : IsLabel label.toList)
    (below : ∀ child ∈ children, child.IsLabelled) : (node head children).IsLabelled := by
  refine isLabelled_node.mpr ⟨fun other mem => ?_, below⟩
  obtain rfl : label = other := Option.some.inj (given.symm.trans mem)
  exact form

theorem isLabelled_of_none {head : ElementHead} {children : List Element}
    (none : head.label = none) (below : ∀ child ∈ children, child.IsLabelled) :
    (node head children).IsLabelled :=
  isLabelled_node.mpr ⟨by simp [none], below⟩

end Element

open Element (isLabelled_of_label isLabelled_of_none)

theorem isLabelled_boxElement {tag : String} {classes : List String} {children : List Element}
    (below : ∀ child ∈ children, child.IsLabelled) :
    (boxElement tag classes children).IsLabelled :=
  isLabelled_of_none rfl below

theorem isLabelled_fieldElement {tag cls text : String} {path : List String}
    {type : ElementType} : ∀ element ∈ fieldElement tag cls text path type, element.IsLabelled := by
  unfold fieldElement
  split
  · simp
  · exact List.forall_mem_singleton.mpr (isLabelled_of_label rfl (isLabel_labelOf text) (by simp))

theorem isLabelled_optionalField {tag cls : String} {text : Option String} {path : List String}
    {type : ElementType} :
    ∀ element ∈ optionalField tag cls text path type, element.IsLabelled :=
  isLabelled_fieldElement

theorem isLabelled_mapIndexed {α : Type} {f : Nat → α → Element} (h : ∀ i a, (f i a).IsLabelled)
    (items : List α) : ∀ element ∈ mapIndexed f items, element.IsLabelled := by
  intro element mem
  obtain ⟨i, a, -, rfl⟩ := mem_mapIndexed.mp mem
  exact h i a

theorem isLabelled_flatten_mapIndexed {α : Type} {f : Nat → α → List Element}
    (h : ∀ i a, ∀ element ∈ f i a, element.IsLabelled) (items : List α) :
    ∀ element ∈ (mapIndexed f items).flatten, element.IsLabelled := by
  intro element mem
  obtain ⟨i, a, -, mem⟩ := mem_flatten_mapIndexed.mp mem
  exact h i a element mem

namespace Assembly

variable (content : Content) (layout : LayoutTokens)

/-! The header -/

theorem isLabelled_icon (field : ContactField) : field.icon.IsLabelled := by
  refine isLabelled_of_none rfl fun element mem => ?_
  obtain ⟨stroke, -, rfl⟩ := List.mem_map.mp mem
  exact isLabelled_of_none rfl (by simp)

theorem isLabelled_contactItem (item : ContactField × String) :
    (contactItem layout item).IsLabelled := by
  have form := isLabel_labelOf item.2
  have text : (Element.node { tag := "span", classes := ["contact-text"], text := some item.2 }
      []).IsLabelled := isLabelled_of_none rfl (by simp)
  unfold contactItem
  dsimp only
  split
  · exact isLabelled_of_label rfl form (by simp [isLabelled_icon, text])
  · exact isLabelled_of_label rfl form (by simp)

theorem isLabelled_contactBlock :
    ∀ element ∈ contactBlock content layout, element.IsLabelled := by
  unfold contactBlock
  dsimp only
  split
  · simp
  · refine List.forall_mem_singleton.mpr (isLabelled_of_label rfl (by decide) fun element mem => ?_)
    obtain ⟨item, -, rfl⟩ := List.mem_map.mp mem
    exact isLabelled_contactItem layout item

theorem isLabelled_photo : ∀ element ∈ photo content layout, element.IsLabelled := by
  unfold photo
  split
  · split
    · refine List.forall_mem_singleton.mpr (isLabelled_of_label rfl (by decide) ?_)
      exact List.forall_mem_singleton.mpr (isLabelled_of_none rfl (by simp))
    · simp
  · simp

theorem isLabelled_header : (header content layout).IsLabelled := by
  have name : (nameElement content).IsLabelled :=
    isLabelled_of_label rfl (isLabel_labelOf content.fullName) (by simp)
  have identity : ∀ element ∈ [boxElement "div" ["header-identity"] (nameElement content
      :: optionalField "p" "headline" content.headline ["header", "headline"] .headerField)],
      element.IsLabelled :=
    List.forall_mem_singleton.mpr
      (isLabelled_boxElement (List.forall_mem_cons.mpr ⟨name, isLabelled_optionalField⟩))
  exact isLabelled_of_label rfl (by decide) (List.forall_mem_append.mpr
    ⟨List.forall_mem_append.mpr ⟨isLabelled_photo content layout, identity⟩,
      isLabelled_contactBlock content layout⟩)

/-! Sections -/

theorem isLabelled_itemHeader {heading beside : List Element}
    (h : ∀ element ∈ heading, element.IsLabelled) (h' : ∀ element ∈ beside, element.IsLabelled) :
    (boxElement "div" ["item-header"]
      (boxElement "div" ["item-heading"] heading :: beside)).IsLabelled :=
  isLabelled_boxElement (List.forall_mem_cons.mpr ⟨isLabelled_boxElement h, h'⟩)

theorem isLabelled_highlightElements (key highlights : List String) :
    ∀ element ∈ highlightElements layout key highlights, element.IsLabelled := by
  unfold highlightElements
  split
  · simp
  · split
    · exact isLabelled_fieldElement
    · exact List.forall_mem_singleton.mpr (isLabelled_of_label rfl (by decide)
        (isLabelled_flatten_mapIndexed (fun _ _ => isLabelled_fieldElement) _))

/-- The label of an item is made of its main texts, or of its number if they are empty. -/
theorem isLabelled_experienceItem (i : Nat) (e : Experience) :
    (experienceItem layout i e).IsLabelled :=
  isLabelled_of_label rfl (isLabel_labelOf _) (List.forall_mem_cons.mpr
    ⟨isLabelled_itemHeader
      (List.forall_mem_append.mpr ⟨isLabelled_fieldElement, isLabelled_fieldElement⟩)
      isLabelled_fieldElement, isLabelled_highlightElements layout _ _⟩)

theorem isLabelled_educationItem (i : Nat) (e : Education) :
    (educationItem layout i e).IsLabelled :=
  isLabelled_of_label rfl (isLabel_labelOf _) (List.forall_mem_cons.mpr
    ⟨isLabelled_itemHeader
      (List.forall_mem_append.mpr ⟨isLabelled_fieldElement, isLabelled_fieldElement⟩)
      isLabelled_fieldElement, isLabelled_optionalField⟩)

theorem isLabelled_skillGroup (category : SkillCategory) (skills : List String) :
    ∀ element ∈ skillGroup layout category skills, element.IsLabelled := by
  have title : IsLabel category.title.toList := by cases category <;> decide
  unfold skillGroup
  split
  · simp
  · refine List.forall_mem_singleton.mpr (isLabelled_of_label rfl title
      (List.forall_mem_cons.mpr ⟨isLabelled_of_none rfl (by simp), ?_⟩))
    refine List.forall_mem_singleton.mpr
      (isLabelled_boxElement (isLabelled_mapIndexed (fun i skill => ?_) _))
    exact isLabelled_of_label rfl (isLabel_labelOf skill) (by simp)

theorem isLabelled_languageItem (i : Nat) (l : SpokenLanguage) : (languageItem i l).IsLabelled :=
  isLabelled_of_label rfl (isLabel_labelOf _)
    (List.forall_mem_append.mpr ⟨isLabelled_fieldElement, isLabelled_fieldElement⟩)

theorem isLabelled_sectionChildren (kind : SectionKind) :
    ∀ element ∈ sectionChildren content layout kind, element.IsLabelled := by
  cases kind with
  | summary => exact isLabelled_optionalField
  | experience => exact isLabelled_mapIndexed (isLabelled_experienceItem layout) _
  | education => exact isLabelled_mapIndexed (isLabelled_educationItem layout) _
  | skills =>
    exact List.forall_mem_singleton.mpr (isLabelled_boxElement (List.forall_mem_append.mpr
      ⟨isLabelled_skillGroup layout _ _, isLabelled_skillGroup layout _ _⟩))
  | languages =>
    exact List.forall_mem_singleton.mpr
      (isLabelled_boxElement (isLabelled_mapIndexed isLabelled_languageItem _))
  | certifications =>
    exact List.forall_mem_singleton.mpr (isLabelled_boxElement
      (isLabelled_flatten_mapIndexed (fun _ _ => isLabelled_fieldElement) _))

theorem isLabelled_sectionElement (kind : SectionKind) :
    (sectionElement kind (sectionChildren content layout kind)).IsLabelled := by
  have form : IsLabel (sectionTitle kind).toList
      ∧ IsLabel (sectionTitle kind ++ " Section").toList := by
    cases kind <;> decide
  refine isLabelled_of_label rfl form.2
    (List.forall_mem_cons.mpr ⟨?_, isLabelled_sectionChildren content layout kind⟩)
  exact isLabelled_of_label rfl form.1 (by simp)

end Assembly

/-- Whatever is assembled, its labels have the form of labels. -/
theorem DocumentTree.isLabelled_assemble (content : Content) (layout : LayoutTokens) :
    ∀ root ∈ (assemble content layout).roots, root.IsLabelled := by
  refine List.forall_mem_cons.mpr ⟨Assembly.isLabelled_header content layout, fun root mem => ?_⟩
  simp only [assemble, Assembly.sections, List.map_map, List.mem_map] at mem
  obtain ⟨kind, -, rfl⟩ := mem
  exact Assembly.isLabelled_sectionElement content layout kind

/-- Labels are bounded and clean. The label of a text has at most 50 characters, with no white space
at its ends and none but single spaces inside. It is the text trimmed and with one space for every
run of white space if that fits, and otherwise the first 49 characters of that and an ellipsis. A
label is its own label. Whatever content with a name is read and however it is laid out, every
element that is addressed has a label of this form that is not empty. -/
theorem labels_are_bounded_and_clean :
    (∀ s : String, IsLabel (labelOf s).toList
        ∧ ((Text.collapseBlanks (Text.trimChars s.toList)).length ≤ 50 →
          (labelOf s).toList = Text.collapseBlanks (Text.trimChars s.toList))
        ∧ (50 < (Text.collapseBlanks (Text.trimChars s.toList)).length →
          (labelOf s).toList = (Text.collapseBlanks (Text.trimChars s.toList)).take 49 ++ ['…'])
        ∧ labelOf (labelOf s) = labelOf s)
      ∧ ∀ (value : Json) (content : Content) (layout : LayoutTokens),
        Content.ofJson value = .ok content → Says content.fullName →
        ∀ h ∈ (DocumentTree.assemble content layout).walk, h.path.isSome →
          ∃ label, h.label = some label ∧ label.isEmpty = false ∧ IsLabel label.toList := by
  refine ⟨fun s => ⟨isLabel_labelOf s, fun fits => ?_, fun long => ?_, labelOf_labelOf s⟩,
    fun value content layout read named h mem addressed => ?_⟩
  · rw [labelOf, String.toList_ofList, labelChars_eq, shorten_of_fits fits]
  · rw [labelOf, String.toList_ofList, labelChars_eq]
    exact if_neg (Nat.not_le.mpr long)
  · obtain ⟨path, given⟩ := Option.isSome_iff_exists.mp addressed
    have made := DocumentTree.areMade_assemble content layout h mem
    obtain ⟨type, selectable⟩ := made.selectable path given
    obtain ⟨label, same, said⟩ := selectable.label
    obtain ⟨root, inside, mem⟩ := Element.exists_of_mem_walkAll mem
    exact ⟨label, same, said (Content.isSpoken_ofJson read) named,
      DocumentTree.isLabelled_assemble content layout root inside h mem label same⟩

/-- Items that have neither of the texts they would be labelled by. -/
def unlabelledJson : Json :=
  .object [("fullName", .string "Ada"), ("experience", .list [.object []]),
    ("education", .list [.object [("institution", .string " \t ")]]),
    ("languages", .list [.object [("level", .string "native")]])]

/-- What the items of `unlabelledJson` are labelled. -/
def unlabelledItems : Checked (List (Option (List String) × Option String)) := do
  let content ← Content.ofJson unlabelledJson
  let tokens ← StyleTokens.ofJson (.object [])
  let items := (DocumentTree.assemble content tokens.layout).walk.filter fun h =>
    h.type ∈ [some .experienceItem, some .educationItem, some .languageItem]
  return items.map fun h => (h.path, h.label)

theorem labels_are_bounded_and_clean_unlabelled :
    labelOf "  Principal engineer\u2003of distributed systems\nand an institute"
        = "Principal engineer of distributed systems and an …"
      ∧ ∃ content tokens, Content.ofJson unlabelledJson = .ok content ∧ Says content.fullName
        ∧ StyleTokens.ofJson (.object []) = .ok tokens
        ∧ unlabelledItems = .ok [(some ["experience", "0"], some "Experience 1"),
          (some ["education", "0"], some "Education 1"),
          (some ["languages", "0"], some "Language 1")]
        ∧ ∀ h ∈ (DocumentTree.assemble content tokens.layout).walk, h.path.isSome →
          ∃ label, h.label = some label ∧ label.isEmpty = false ∧ IsLabel label.toList := by
  have readable : (Content.ofJson unlabelledJson).isOk := by decide +kernel
  have resolvable : (StyleTokens.ofJson (.object [])).isOk := by decide +kernel
  have called : (Content.ofJson unlabelledJson).map (fun c => decide (Says c.fullName))
      = .ok true := by decide +kernel
  have items : unlabelledItems = .ok [(some ["experience", "0"], some "Experience 1"),
      (some ["education", "0"], some "Education 1"), (some ["languages", "0"], some "Language 1")] :=
    Checked.eq_ok_of_toOption (by decide +kernel)
  obtain ⟨content, read⟩ := Checked.exists_of_isOk readable
  obtain ⟨tokens, resolved⟩ := Checked.exists_of_isOk resolvable
  rw [read] at called
  have named : Says content.fullName := of_decide_eq_true (Except.ok.inj called)
  have cut := labels_are_bounded_and_clean.1
    "  Principal engineer\u2003of distributed systems\nand an institute"
  have shown := cut.2.2.1 (by decide)
  refine ⟨String.toList_injective (shown.trans (by decide)), content, tokens, read, named,
    resolved, items, ?_⟩
  exact labels_are_bounded_and_clean.2 unlabelledJson content tokens.layout read named

end Vitae
