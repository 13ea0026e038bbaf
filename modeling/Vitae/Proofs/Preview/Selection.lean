import Vitae.Proofs.Override.Relevance
import Vitae.Proofs.Override.Storage
import Vitae.Proofs.Preview.Delivery

/-!
Selecting elements. Whatever element of a document has an id can be selected: what its tag tells is
a message that its channel takes, and naming that id is enough to override it.
-/

namespace Vitae

/-! What a document says of a tag -/

namespace Tag

/-- A member of a message with the value of an attribute, if there is one. -/
def memberFor (tag : Tag) (key name : String) : List (String × Json) :=
  (tag.attributes.lookup key).toList.map fun value => (name, .string value)

/-- What a document says on a channel when the element of a tag is selected. -/
def selectedJson (tag : Tag) (channel : String) : Json :=
  .object (("type", .string "elementSelected") :: tag.memberFor "data-element-id" "elementId"
    ++ tag.memberFor "data-element-type" "elementType"
    ++ tag.memberFor "data-element-label" "elementLabel" ++ [("channel", .string channel)])

/-- Every open channel with a name takes what is said there of a tag, as a selection. -/
def Reports (tag : Tag) (s : Selection) : Prop :=
  ∀ (c : EditChannel) (name : String), c.id = .string name → name.isEmpty = false →
    c.closed = false → c.receive (tag.selectedJson name)
      = .ok ({ c with inbox := c.inbox ++ [⟨.selected s, some (.string name)⟩] },
          some ⟨.selected s, some (.string name)⟩)

end Tag

namespace Message

/-- A selection that is sent on a channel is read as that selection. -/
theorem ofJson_toJson_selected {s : Selection} (given : s.id.isEmpty = false) {name : String}
    (named : name.isEmpty = false) (default : Option Json) :
    ofJson (toJson ⟨.selected s, some (.string name)⟩) default
      = .ok ⟨.selected s, some (.string name)⟩ := by
  let members := noticeMembers (.selected s) ++ [("channel", .string name)]
  have channel : channelIn members default = .ok (some (.string name)) := by
    simp [channelIn, members, noticeMembers, Json.getOrNull, Json.get?, Json.isNull, textIn, named,
      Except.map]
  have word : textIn members "elementType" = .ok s.type.word := by
    simp [textIn, members, noticeMembers, Json.get?, s.type.isEmpty_word]
  have id : textIn members "elementId" = .ok s.id := by
    simp [textIn, members, noticeMembers, Json.get?, given]
  have label : labelIn members = s.label := by
    cases empty : s.label.isEmpty <;>
      simp_all [labelIn, members, noticeMembers, Json.getOrNull, Json.get?, Json.truthy,
        Json.plainText]
  have selection : selectionIn members = .ok s := by
    rw [selectionIn, Checked.bind_of_ok word, ElementType.ofWord?_word]
    exact (Checked.bind_of_ok id _).trans (by rw [label]; rfl)
  have notice : noticeIn members = .ok (.selected s) := by
    have type : Json.getOrNull "type" members = .string "elementSelected" := rfl
    rw [noticeIn, type]
    exact Checked.map_eq_ok.mpr ⟨s, selection, rfl⟩
  have whole : toJson ⟨.selected s, some (.string name)⟩ = .object members := rfl
  rw [whole, ofJson, Checked.bind_of_ok channel, Checked.bind_of_ok notice]
  rfl

end Message

namespace ElementHead

/-- An element and what selecting it tells. -/
structure IsSelectedAs (h : ElementHead) (s : Selection) : Prop where
  id : h.id = some s.id
  type : h.type = some s.type
  label : h.label = some s.label
  named : s.id.isEmpty = false
  labelled : s.label.isEmpty = false

variable {h : ElementHead} {s : Selection}

theorem IsSelectedAs.address? (selected : h.IsSelectedAs s) : h.address? = some s.id := by
  simp [ElementHead.address?, selected.id, selected.named]

theorem IsSelectedAs.selectedJson_eq (selected : h.IsSelectedAs s) {tag : Tag}
    (found : h.IsFoundIn tag) (name : String) :
    tag.selectedJson name = Message.toJson ⟨.selected s, some (.string name)⟩ := by
  have type : presentText (some s.type.word) = some s.type.word := by
    simp [presentText, Option.filter, s.type.isEmpty_word]
  have label : presentText (some s.label) = some s.label := by
    simp [presentText, Option.filter, selected.labelled]
  simp [Tag.selectedJson, Tag.memberFor, found.id, found.type, found.label, selected.address?,
    selected.type, selected.label, type, label, Message.toJson, Message.noticeMembers]

/-- What is told of an element is taken. -/
theorem IsSelectedAs.reports (selected : h.IsSelectedAs s) {tag : Tag} (found : h.IsFoundIn tag) :
    tag.Reports s := by
  intro c name id named isOpen
  rw [EditChannel.receive, Checked.bind_of_ok (EditChannel.ensureOpen_of_open isOpen),
    selected.selectedJson_eq found, Checked.bind_of_ok
      (Message.ofJson_toJson_selected selected.named named _), EditChannel.accept, id,
    if_neg (by simp), if_pos (by rfl)]

end ElementHead

/-! Overrides that only name an element -/

namespace ElementOverride

theorem typeOf_text (id : String) {members : List (String × Json)}
    (none : Json.getOrNull "elementType" members = .null) :
    typeOf (.string id) members = .ok (.infer id) := by
  rw [typeOf, none]
  rfl

theorem read_of_id {given : Json} {members : List (String × Json)} {id : String}
    (named : idOf given members = .string id) (some : id.isEmpty = false)
    (bare : ∀ key ≠ "elementId", Json.get? key members = none) :
    read given (.object members) = .ok ⟨.string id, .infer id, false, none, none⟩ := by
  have truthy : (Json.string id).truthy = true := by simp [Json.truthy, some]
  have type : typeOf (.string id) members = .ok (.infer id) :=
    typeOf_text id (by rw [Json.getOrNull, bare _ (by decide)]; rfl)
  have shown : hiddenIn (.string id) members = .ok false := by
    rw [hiddenIn, bare _ (by decide)]
  have colour (key : String) (other : key ≠ "elementId") :
      colorIn (.string id) key members = .ok none := by
    rw [colorIn, Json.getOrNull, bare key other]
    rfl
  have whole : (Json.object members).membersOf = .ok members := rfl
  rw [read, Checked.bind_of_ok whole]
  dsimp only
  rw [named, Checked.bind_of_ok type, Checked.bind_of_ok shown, truthy]
  rw [Checked.bind_of_ok (colour _ (by decide)), Checked.bind_of_ok (colour _ (by decide))]
  rfl

/-- Nothing more is needed than the id, in the override or in front of it. -/
theorem read_named {id : String} (some : id.isEmpty = false) :
    read .null (.object [("elementId", .string id)])
        = .ok ⟨.string id, .infer id, false, none, none⟩
      ∧ read (.string id) (.object []) = .ok ⟨.string id, .infer id, false, none, none⟩ := by
  constructor
  · apply read_of_id ?_ some
    · intro key other
      simp [Json.get?, Ne.symm other]
    · simp [idOf, Json.getOrNull, Json.get?, Json.truthy]
  · apply read_of_id ?_ some
    · exact fun key other => rfl
    · simp [idOf, Json.truthy, some]

end ElementOverride

namespace DocumentTree

/-- An override that names an element is reported as applied. -/
theorem applied_of_mem {d : DocumentTree} {id : String} (inside : id ∈ Element.addresses d.roots)
    {overrides : OverrideSet} (given : .text id ∈ overrides.entries.map ElementOverride.id) :
    id ∈ (d.overrideReport overrides).applied
      ∧ .text id ∉ (d.overrideReport overrides).stale := by
  have found : (d.lookUp (.text id)).isSome := isSome_lookUp_iff.mpr (List.mem_map_of_mem inside)
  obtain ⟨o, mem, names⟩ := List.mem_map.mp given
  have some : overrides.isEmpty = false := by
    rw [Bool.eq_false_iff]
    intro empty
    rw [OverrideSet.isEmpty, List.isEmpty_iff] at empty
    simp [empty] at mem
  rw [overrideReport, some, if_neg (by simp), report]
  constructor
  · have picked : .text id ∈ idsWhere (fun _ found => found.isSome) overrides d :=
      List.mem_map.mpr ⟨o, List.mem_filter.mpr ⟨mem, by rw [names]; exact found⟩, names⟩
    exact List.mem_filterMap.mpr ⟨.text id, picked, rfl⟩
  · intro stale
    obtain ⟨other, picked, same⟩ := List.mem_map.mp stale
    have missing := (List.mem_filter.mp picked).2
    rw [same, Option.isNone_iff_eq_none] at missing
    simp [missing] at found

variable {content : Content} {layout : LayoutTokens}

/-- Every element of an assembled tree that has an id is selected as what its id tells. -/
theorem exists_isSelectedAs (spoken : content.IsSpoken) (named : Says content.fullName)
    {h : ElementHead} (mem : h ∈ (identified content layout).walk) (given : h.id.isSome) :
    ∃ s : Selection, h.IsSelectedAs s ∧ s.type = .infer s.id := by
  rw [identified, walk_mapHeads] at mem
  obtain ⟨own, inside, rfl⟩ := List.mem_map.mp mem
  have made := areMade_assemble content layout own inside
  obtain ⟨path, set⟩ : ∃ path, own.path = some path := by
    rw [← Option.isSome_iff_exists]
    simpa [ElementHead.withPathId, ElementHead.pathId?, made.fresh.id] using given
  obtain ⟨type, selectable⟩ := made.selectable path set
  obtain ⟨label, labelled, said⟩ := selectable.label
  refine ⟨⟨ElementId.ofPath path, type, label⟩, ⟨?_, selectable.typed, labelled,
    selectable.suggested.given, said spoken named⟩, selectable.suggested.inferred⟩
  simp [ElementHead.withPathId, ElementHead.pathId?, set]

/-- What has an id in a document are tags of the elements of its tree. -/
theorem exists_of_mem_namedIn {d : DocumentTree} (writable : Element.AreWritable d.roots)
    {tokens : StyleTokens} {layer : ModeLayer} {title : String} {tag : Tag}
    (mem : tag ∈ Page.namedIn (d.page tokens layer title).asRead.html) :
    ∃ h ∈ d.walk, h.id.isSome ∧ h.IsFoundIn tag := by
  rw [namedIn_asRead_page writable] at mem
  obtain ⟨h, inside, told⟩ := List.mem_filterMap.mp mem
  obtain ⟨id, address, rfl⟩ := Option.map_eq_some_iff.mp told
  obtain ⟨root, shown, among⟩ := Element.exists_of_mem_walkAll inside
  refine ⟨h, Element.walk_subset_walkAll (mem_roots_of_mem_shownRoots shown) among, ?_,
    ElementHead.isFoundIn_readTag (isWritable_of_mem_shownRoots writable inside)⟩
  rw [ElementHead.address?, Option.filter_eq_some_iff] at address
  rw [address.1, Option.isSome_some]

end DocumentTree

/-- Everything with an id can be selected and overridden. Each element of a content's tree that has
one has a type and a label, and what its tag tells is taken as a selection of it by every open
channel with a name, in the documents of all modes and under all overrides as well. The id alone is
read as an override of the right type, which the tree takes as applied. -/
theorem every_element_can_be_selected {value style : Json} {content : Content}
    {tokens : StyleTokens}
    (read : Content.ofJson value = .ok content)
    (named : Text.isBlankText content.fullName = false)
    (resolved : StyleTokens.ofJson style = .ok tokens) :
    ∃ tree, (DocumentTree.assemble content tokens.layout).identify = .ok tree
      ∧ (∀ h ∈ tree.walk, h.id.isSome → ∃ s : Selection, h.IsSelectedAs s ∧ h.readTag.Reports s
        ∧ ElementOverride.read .null (.object [("elementId", .string s.id)])
          = .ok ⟨.string s.id, s.type, false, none, none⟩
        ∧ ElementOverride.read (.string s.id) (.object [])
          = .ok ⟨.string s.id, s.type, false, none, none⟩
        ∧ ∀ overrides : OverrideSet, .text s.id ∈ overrides.entries.map ElementOverride.id →
          s.id ∈ (tree.overrideReport overrides).applied
            ∧ .text s.id ∉ (tree.overrideReport overrides).stale)
      ∧ ∀ overrides options document,
        compile content (StyleTokens.ofJson style) overrides options = .ok document →
          ∀ tag ∈ Html.tagsWithAll "data-element-id" (Html.parse document.toList),
            ∃ h ∈ tree.walk, ∃ s : Selection, h.IsSelectedAs s ∧ tag.Reports s := by
  obtain ⟨identify, unique, -⟩ :=
    DocumentTree.identify_of_knownIds (knownIds_eq read resolved)
  have shown := DocumentTree.shown_identified content tokens.layout
  have spoken := Content.isSpoken_ofJson read
  have writable : Element.AreWritable (DocumentTree.identified content tokens.layout).roots :=
    DocumentTree.areWritable_mapHeads ElementHead.isAlike_withPathId
      (DocumentTree.areWritable_assemble content tokens.layout)
  refine ⟨_, identify, fun h mem given => ?_, fun overrides options document compiled tag mem => ?_⟩
  · obtain ⟨s, told, inferred⟩ := DocumentTree.exists_isSelectedAs spoken named mem given
    have inside : s.id ∈ Element.addresses (DocumentTree.identified content tokens.layout).roots :=
      List.mem_filterMap.mpr ⟨h, mem, told.address?⟩
    obtain ⟨root, among, below⟩ := Element.exists_of_mem_walkAll mem
    have found := ElementHead.isFoundIn_readTag ((writable root among).of_mem_walk h below)
    obtain ⟨alone, before⟩ := ElementOverride.read_named told.named
    rw [← inferred] at alone before
    exact ⟨s, told, told.reports found, alone, before,
      fun overrides => DocumentTree.applied_of_mem inside⟩
  · obtain ⟨tokens', tree, layer, resolved', built, mode, rfl⟩ := exists_page_of_compile compiled
    obtain rfl : tokens = tokens' := Except.ok.inj (resolved.symm.trans resolved')
    obtain ⟨-, _, given, rfl⟩ := compiledTree_eq_ok_iff.mp built
    obtain rfl := Except.ok.inj (identify.symm.trans given)
    have overridden := DocumentTree.areWritable_override writable overrides
    rw [Page.parse_text (DocumentTree.isReadable_page overridden resolved mode _)] at mem
    obtain ⟨h, inside, given, found⟩ := DocumentTree.exists_of_mem_namedIn overridden mem
    obtain ⟨own, among, rfl⟩ := DocumentTree.exists_of_mem_walk_override unique shown inside
    obtain ⟨s, told, -⟩ := DocumentTree.exists_isSelectedAs spoken named among given
    -- Overrides change neither what identifies an element nor what it is called.
    have same : (overrides.revise own).IsSelectedAs s :=
      ⟨told.id, told.type, told.label, told.named, told.labelled⟩
    exact ⟨own, among, s, told, same.reports found⟩

/-- Whether the tree of a content has an element with an id. -/
def hasElement (value style : Json) (id : String) : Checked Bool := do
  let content ← Content.ofJson value
  let tokens ← StyleTokens.ofJson style
  let tree ← (DocumentTree.assemble content tokens.layout).identify
  return tree.walk.any fun h => h.id = some id

/-- The highlight of a content, and all that its editable document tells. -/
theorem every_element_can_be_selected_highlight :
    ∃ content tokens tree, Content.ofJson builderJson = .ok content
      ∧ Text.isBlankText content.fullName = false
      ∧ StyleTokens.ofJson (.object []) = .ok tokens
      ∧ (DocumentTree.assemble content tokens.layout).identify = .ok tree
      ∧ ∃ h ∈ tree.walk, ∃ s : Selection, s.id = "experience-0-0" ∧ h.IsSelectedAs s
        ∧ h.readTag.Reports s
        ∧ ElementOverride.read .null (.object [("elementId", .string "experience-0-0")])
          = .ok ⟨.string "experience-0-0", s.type, false, none, none⟩
        ∧ ∃ document,
          compile content (StyleTokens.ofJson (.object [])) headlineHidden { mode := .interactive }
              = .ok document
            ∧ ∀ tag ∈ Html.tagsWithAll "data-element-id" (Html.parse document.toList),
              ∃ h ∈ tree.walk, ∃ s : Selection, h.IsSelectedAs s ∧ tag.Reports s := by
  have readable : (Content.ofJson builderJson).isOk := by decide +kernel
  have resolvable : (StyleTokens.ofJson (.object [])).isOk := by decide +kernel
  obtain ⟨content, read⟩ := Checked.exists_of_isOk readable
  obtain ⟨tokens, resolved⟩ := Checked.exists_of_isOk resolvable
  have fullName : (Content.ofJson builderJson).map (fun c => Text.isBlankText c.fullName)
      = .ok false := by decide +kernel
  rw [read] at fullName
  have named := Except.ok.inj fullName
  have compilable : (Content.ofJson builderJson >>= fun content => compile content
      (StyleTokens.ofJson (.object [])) headlineHidden { mode := .interactive }).isOk := by
    decide +kernel
  rw [Checked.bind_of_ok read] at compilable
  obtain ⟨document, compiled⟩ := Checked.exists_of_isOk compilable
  have there : hasElement builderJson (.object []) "experience-0-0" = .ok true := by decide +kernel
  obtain ⟨tree, identify, elements, documents⟩ := every_element_can_be_selected read named resolved
  rw [hasElement, Checked.bind_of_ok read, Checked.bind_of_ok resolved,
    Checked.bind_of_ok identify] at there
  obtain ⟨h, mem, id⟩ := List.any_eq_true.mp (Except.ok.inj there)
  have id : h.id = some "experience-0-0" := by simpa using id
  obtain ⟨s, told, reports, alone, -⟩ := elements h mem (by rw [id]; rfl)
  have same : s.id = "experience-0-0" := Option.some.inj (told.id.symm.trans id)
  rw [same] at alone
  exact ⟨content, tokens, tree, read, named, resolved, identify, h, mem, s, same, told, reports,
    alone, document, compiled, documents headlineHidden _ document compiled⟩

end Vitae
