import Vitae.Proofs.Document.Assembly
import Vitae.Proofs.Element.Found
import Vitae.Proofs.Override.Agreement

/-!
What overrides do to a tree. Marking goes by the ids of all elements and taking out goes down the
tree; together they keep exactly the elements that no override hides, neither themselves nor with
something around them.
-/

namespace Vitae

namespace OverrideSet

/-- The override for an element. -/
def for? (s : OverrideSet) (h : ElementHead) : Option ElementOverride :=
  h.address?.bind fun id => s.get? (.text id)

/-- Whether an element is hidden by its own override. -/
def hides (s : OverrideSet) (h : ElementHead) : Bool :=
  !h.required && (s.for? h).any ElementOverride.hidden

/-- The declaration of a colour that an override sets. -/
def paint (name : String) (color : Option Color) (style : List (String × String)) :
    List (String × String) :=
  match color with
  | some c => putMember name (c.hex ++ " !important") style
  | none => style

/-- An element with the colours of its own override, and hidden if that hides it. -/
def revise (s : OverrideSet) (h : ElementHead) : ElementHead :=
  { h with
    style := paint "background-color" ((s.for? h).bind ElementOverride.background)
      (paint "color" ((s.for? h).bind ElementOverride.color) h.style)
    hidden := s.hides h }

end OverrideSet

namespace Element

mutual

/-- Every element of a tree in document order, as the heads from the root down to its own. -/
def lineages : Element → List (List ElementHead)
  | .node head children => [head] :: (lineagesAll children).map (head :: ·)

def lineagesAll : List Element → List (List ElementHead)
  | [] => []
  | element :: rest => lineages element ++ lineagesAll rest

end

mutual

theorem lineages_mapHeads (f : ElementHead → ElementHead) (element : Element) :
    (element.mapHeads f).lineages = element.lineages.map (·.map f) := by
  match element with
  | .node head children =>
    simp [mapHeads, lineages, lineagesAll_mapHeadsAll f children, Function.comp_def]

theorem lineagesAll_mapHeadsAll (f : ElementHead → ElementHead) (elements : List Element) :
    lineagesAll (mapHeadsAll f elements) = (lineagesAll elements).map (·.map f) := by
  match elements with
  | [] => rfl
  | element :: rest =>
    simp [mapHeadsAll, lineagesAll, lineages_mapHeads f element, lineagesAll_mapHeadsAll f rest]

end

theorem exists_cons_of_mem_lineages {element : Element} {line : List ElementHead}
    (mem : line ∈ element.lineages) : ∃ below, line = element.head :: below := by
  cases element with
  | node head children =>
    simp only [lineages, List.mem_cons, List.mem_map] at mem
    rcases mem with rfl | ⟨below, -, rfl⟩
    · exact ⟨[], rfl⟩
    · exact ⟨below, rfl⟩

mutual

/-- Taking out hidden elements keeps those that are shown with everything around them, but for the
root. -/
theorem lineages_prune (element : Element) :
    element.prune.lineages
      = element.lineages.filter fun line => !line.tail.any ElementHead.hidden := by
  match element with
  | .node head children =>
    have inner := lineagesAll_pruneAll children
    simp [prune, lineages, inner, List.filter_map, Function.comp_def]

theorem lineagesAll_pruneAll (elements : List Element) :
    lineagesAll (pruneAll elements)
      = (lineagesAll elements).filter fun line => !line.any ElementHead.hidden := by
  match elements with
  | [] => rfl
  | element :: rest =>
    have first := lineages_prune element
    have others := lineagesAll_pruneAll rest
    rw [pruneAll, lineagesAll, List.filter_append]
    cases hidden : element.head.hidden with
    | true =>
      have none : (element.lineages.filter fun line => !line.any ElementHead.hidden) = [] := by
        rw [List.filter_eq_nil_iff]
        intro line mem
        obtain ⟨below, rfl⟩ := exists_cons_of_mem_lineages mem
        simp [hidden]
      rw [if_pos rfl, others, none, List.nil_append]
    | false =>
      have same : (element.lineages.filter fun line => !line.any ElementHead.hidden)
          = element.lineages.filter fun line => !line.tail.any ElementHead.hidden := by
        apply List.filter_congr
        intro line mem
        obtain ⟨below, rfl⟩ := exists_cons_of_mem_lineages mem
        simp [hidden]
      rw [if_neg (by simp), lineagesAll, first, others, same]

end

end Element

namespace ElementHead

theorem putStyle_eq (name : String) (color : Option Color) (h : ElementHead) :
    h.putStyle name color = { h with style := OverrideSet.paint name color h.style } := by
  cases color <;> rfl

/-- An element whose id does not come again gets its own override. -/
theorem amendFrom_eq_revise (s : OverrideSet) {later : List String} {h : ElementHead}
    (last : ∀ id, h.address? = some id → id ∉ later) (shown : h.hidden = false) :
    h.amendFrom s later = s.revise h := by
  have same : { h with hidden := false } = h := by rw [← shown]
  cases address : h.address? with
  | none =>
    simp [amendFrom, OverrideSet.revise, OverrideSet.for?, OverrideSet.hides, address,
      OverrideSet.paint, same]
  | some id =>
    have fresh := last id address
    cases found : s.get? (.text id) with
    | none =>
      simp [amendFrom, OverrideSet.revise, OverrideSet.for?, OverrideSet.hides, address, fresh,
        found, OverrideSet.paint, same]
    | some o =>
      simp [amendFrom, amend, OverrideSet.revise, OverrideSet.for?, OverrideSet.hides, address,
        fresh, found, putStyle_eq, shown, Bool.and_comm]

end ElementHead

namespace Element

theorem nodup_addresses_node {head : ElementHead} {children : List Element} {later : List String}
    (unique : (addresses [.node head children] ++ later).Nodup) :
    (∀ id, head.address? = some id → id ∉ addresses children ++ later)
      ∧ (addresses children ++ later).Nodup := by
  rw [addresses_node, List.append_assoc, List.nodup_append] at unique
  refine ⟨fun id address mem => ?_, unique.2.1⟩
  exact unique.2.2 id (by simp [address]) id mem rfl

mutual

/-- Where ids are unique, marking a tree changes every element on its own. -/
theorem amend_eq_mapHeads (s : OverrideSet) {later : List String} {element : Element}
    (unique : (addresses [element] ++ later).Nodup) (shown : ∀ h ∈ element.walk, h.hidden = false) :
    element.amend s later = element.mapHeads s.revise := by
  match element with
  | .node head children =>
    obtain ⟨own, inner⟩ := nodup_addresses_node unique
    have first : head.hidden = false := shown head (by simp [walk])
    have others := amendAll_eq_mapHeadsAll s inner fun h mem => shown h (by simp [walk, mem])
    rw [amend, mapHeads, ElementHead.amendFrom_eq_revise s own first, others]

theorem amendAll_eq_mapHeadsAll (s : OverrideSet) {later : List String} {elements : List Element}
    (unique : (addresses elements ++ later).Nodup)
    (shown : ∀ h ∈ walkAll elements, h.hidden = false) :
    amendAll s later elements = mapHeadsAll s.revise elements := by
  match elements with
  | [] => rfl
  | element :: rest =>
    rw [addresses_cons, List.append_assoc] at unique
    have first := amend_eq_mapHeads s unique fun h mem => shown h (by simp [walkAll, mem])
    have others := amendAll_eq_mapHeadsAll s (List.nodup_append.mp unique).2.1
      fun h mem => shown h (by simp [walkAll, mem])
    rw [amendAll, mapHeadsAll, first, others]

end

end Element

namespace DocumentTree

theorem amendSections_eq_map (s : OverrideSet) {sections : List SectionTree}
    (unique : (Element.addresses (sections.map SectionTree.root)).Nodup)
    (shown : ∀ h ∈ Element.walkAll (sections.map SectionTree.root), h.hidden = false) :
    amendSections s sections
      = sections.map fun t => { t with root := t.root.mapHeads s.revise } := by
  induction sections with
  | nil => rfl
  | cons t sections ih =>
    rw [List.map_cons, Element.addresses_cons] at unique
    have first := Element.amend_eq_mapHeads s unique
      fun h mem => shown h (by simp [Element.walkAll, mem])
    have others := ih (List.nodup_append.mp unique).2.1
      fun h mem => shown h (by simp [Element.walkAll, mem])
    rw [amendSections, first, others, List.map_cons]

theorem amend_eq_mapHeads (s : OverrideSet) {d : DocumentTree}
    (unique : (Element.addresses d.roots).Nodup) (shown : ∀ h ∈ d.walk, h.hidden = false) :
    d.amend s = d.mapHeads s.revise := by
  rw [roots, Element.addresses_cons] at unique
  have header := Element.amend_eq_mapHeads s unique
    fun h mem => shown h (by simp [walk, roots, Element.walkAll, mem])
  have sections := amendSections_eq_map s (List.nodup_append.mp unique).2.1
    fun h mem => shown h (by simp [walk, roots, Element.walkAll, mem])
  rw [amend, header, sections]
  rfl

end DocumentTree

/-! What overrides cannot take away -/

namespace Element

theorem mem_pruneAll_of_mem {element : Element} {elements : List Element} (mem : element ∈ elements)
    (shown : element.head.hidden = false) : element.prune ∈ pruneAll elements := by
  induction elements with
  | nil => simp at mem
  | cons other elements ih =>
    rw [pruneAll]
    rcases List.mem_cons.mp mem with rfl | mem
    · simp [shown]
    · split
      · exact ih mem
      · exact List.mem_cons_of_mem _ (ih mem)

theorem exists_mem_amendAll (s : OverrideSet) (later : List String) {element : Element}
    {elements : List Element} (mem : element ∈ elements) :
    ∃ ids, element.amend s ids ∈ amendAll s later elements := by
  induction elements with
  | nil => simp at mem
  | cons other elements ih =>
    rw [amendAll]
    rcases List.mem_cons.mp mem with rfl | mem
    · exact ⟨addresses elements ++ later, by simp⟩
    · obtain ⟨ids, inside⟩ := ih mem
      exact ⟨ids, List.mem_cons_of_mem _ inside⟩

theorem walk_subset_walkAll {element : Element} {elements : List Element}
    (mem : element ∈ elements) : element.walk ⊆ walkAll elements := by
  induction elements with
  | nil => simp at mem
  | cons other elements ih =>
    intro h inside
    rw [walkAll, List.mem_append]
    rcases List.mem_cons.mp mem with rfl | mem
    · exact .inl inside
    · exact .inr (ih mem inside)

theorem head_mem_walk (element : Element) : element.head ∈ element.walk := by
  cases element
  simp [walk, head]

theorem head_amend (s : OverrideSet) (later : List String) (element : Element) :
    ∃ ids, (element.amend s later).head = element.head.amendFrom s ids := by
  cases element with
  | node head children => exact ⟨_, rfl⟩

theorem head_prune (element : Element) : element.prune.head = element.head := by
  cases element
  rfl

end Element

namespace ElementHead

theorem hidden_amendFrom (s : OverrideSet) (later : List String) {h : ElementHead}
    (kept : h.required ∨ h.address? = none) : (h.amendFrom s later).hidden = h.hidden := by
  unfold amendFrom
  split
  · next id address =>
    have required : h.required := kept.resolve_right (by simp [address])
    split
    · rfl
    · split <;> simp [amend, putStyle_eq, required]
  · rfl

/-- A head that no override can hide, and that is not hidden. -/
structure Stays (h : ElementHead) : Prop where
  shown : h.hidden = false
  kept : h.required ∨ h.address? = none

/-- Overrides change the style of an element and whether it is hidden, and nothing else. -/
theorem amendFrom_rest (s : OverrideSet) (later : List String) (h : ElementHead) :
    { h.amendFrom s later with style := h.style, hidden := h.hidden } = h := by
  unfold amendFrom
  split
  · split
    · rfl
    · split <;> simp [amend, putStyle_eq]
  · rfl

end ElementHead

namespace Element

/-- What is in a child that stays is in the whole. -/
theorem exists_walk_subset (s : OverrideSet) (later : List String) {element child : Element}
    (mem : child ∈ element.children) (stays : child.head.Stays) :
    ∃ ids, (child.amend s ids).prune.walk ⊆ (element.amend s later).prune.walk := by
  cases element with
  | node head children =>
    obtain ⟨ids, inside⟩ := exists_mem_amendAll s later mem
    obtain ⟨ids', same⟩ := head_amend s ids child
    have shown : (child.amend s ids).head.hidden = false := by
      rw [same, ElementHead.hidden_amendFrom s ids' stays.kept, stays.shown]
    refine ⟨ids, List.Subset.trans (walk_subset_walkAll (mem_pruneAll_of_mem inside shown)) ?_⟩
    rw [amend, prune, walk]
    exact List.subset_cons_self _ _

end Element

namespace OverrideSet

theorem lookup_paint_self (name : String) (color : Option Color) (style : List (String × String)) :
    (paint name color style).lookup name
      = (color.map fun c => c.hex ++ " !important").or (style.lookup name) := by
  cases color with
  | none => rfl
  | some c => simp [paint, lookup_putMember]

theorem lookup_paint_other {name other : String} (differs : other ≠ name) (color : Option Color)
    (style : List (String × String)) :
    (paint name color style).lookup other = style.lookup other := by
  cases color with
  | none => rfl
  | some c => simp [paint, lookup_putMember, differs]

/-- An element before and after its override: the two colours that can be set are the only change to
its style, and nothing but its style and whether it is hidden changes at all. -/
structure Recolours (s : OverrideSet) (before after : ElementHead) : Prop where
  rest : { after with style := before.style, hidden := before.hidden } = before
  color : after.style.lookup "color" = (((s.for? before).bind ElementOverride.color).map
    fun c => c.hex ++ " !important").or (before.style.lookup "color")
  background : after.style.lookup "background-color"
    = (((s.for? before).bind ElementOverride.background).map
      fun c => c.hex ++ " !important").or (before.style.lookup "background-color")
  others : ∀ name, name ≠ "color" → name ≠ "background-color" →
    after.style.lookup name = before.style.lookup name
  plain : (s.for? before).bind ElementOverride.color = none →
    (s.for? before).bind ElementOverride.background = none → after.style = before.style

theorem recolours_revise (s : OverrideSet) (h : ElementHead) : s.Recolours h (s.revise h) where
  rest := rfl
  color := by
    simp only [revise]
    rw [lookup_paint_other (by decide), lookup_paint_self]
  background := by
    simp only [revise]
    rw [lookup_paint_self, lookup_paint_other (by decide)]
  others := by
    intro name color background
    simp only [revise]
    rw [lookup_paint_other background, lookup_paint_other color]
  plain := by
    intro color background
    simp [revise, color, background, paint]

end OverrideSet

namespace DocumentTree

theorem eq_of_identify {d tree : DocumentTree} (h : d.identify = .ok tree) :
    tree = d.mapHeads ElementHead.withPathId := by
  unfold identify at h
  split at h
  · simp at h
  · exact (Except.ok.inj h).symm

end DocumentTree

namespace Element

theorem any_hidden_map_revise (s : OverrideSet) (line : List ElementHead) :
    (line.map s.revise).any ElementHead.hidden = line.any s.hides := by
  rw [List.any_map]
  rfl

theorem lineages_prune_mapHeads (s : OverrideSet) (element : Element) :
    (element.mapHeads s.revise).prune.lineages
      = (element.lineages.filter fun line => !line.tail.any s.hides).map (·.map s.revise) := by
  rw [lineages_prune, lineages_mapHeads, List.filter_map]
  congr 1
  apply List.filter_congr
  intro line mem
  rw [Function.comp_apply, ← List.map_tail, any_hidden_map_revise]

theorem mapHeadsAll_eq_map (f : ElementHead → ElementHead) (elements : List Element) :
    mapHeadsAll f elements = elements.map (mapHeads f) := by
  induction elements with
  | nil => rfl
  | cons element elements ih => rw [mapHeadsAll, ih, List.map_cons]

theorem children_mapHeads (f : ElementHead → ElementHead) (element : Element) :
    (element.mapHeads f).children = element.children.map (mapHeads f) := by
  cases element with
  | node head children => exact mapHeadsAll_eq_map f children

theorem head_mapHeads (f : ElementHead → ElementHead) (element : Element) :
    (element.mapHeads f).head = f element.head := by
  cases element
  rfl

/-- Below a root that stays, it does not matter whether the root is looked at. -/
theorem filter_lineages_of_shown {s : OverrideSet} {element : Element}
    (shown : s.hides element.head = false) :
    (element.lineages.filter fun line => !line.tail.any s.hides)
      = element.lineages.filter fun line => !line.any s.hides := by
  apply List.filter_congr
  intro line mem
  obtain ⟨below, rfl⟩ := exists_cons_of_mem_lineages mem
  simp [shown]

end Element

namespace DocumentTree

theorem sections_override (s : OverrideSet) {d : DocumentTree}
    (unique : (Element.addresses d.roots).Nodup) (shown : ∀ h ∈ d.walk, h.hidden = false)
    (some : s.isEmpty = false) : (d.override s).sections
      = (d.sections.filter fun t => !s.hides t.root.head).map
        fun t => { t with root := (t.root.mapHeads s.revise).prune } := by
  have hidden (t : SectionTree) : (t.root.mapHeads s.revise).head.hidden = s.hides t.root.head := by
    rw [Element.head_mapHeads]
    rfl
  rw [override, if_neg (by simp [some]), amend_eq_mapHeads s unique shown]
  simp only [prune, mapHeads, mapRoots, List.filter_map, List.map_map, Function.comp_def, hidden]

theorem header_override (s : OverrideSet) {d : DocumentTree}
    (unique : (Element.addresses d.roots).Nodup) (shown : ∀ h ∈ d.walk, h.hidden = false)
    (some : s.isEmpty = false) :
    (d.override s).header = (d.header.mapHeads s.revise).prune := by
  rw [override, if_neg (by simp [some]), amend_eq_mapHeads s unique shown]
  rfl

/-- The header of a tree under overrides has its own head, but for style and hiding. -/
theorem head_header_override (s : OverrideSet) (d : DocumentTree) :
    { (d.override s).header.head with
      style := d.header.head.style, hidden := d.header.head.hidden } = d.header.head := by
  unfold override
  split
  · rfl
  · obtain ⟨ids, same⟩ := Element.head_amend s
      (Element.addresses (d.sections.map SectionTree.root)) d.header
    have head : ((d.amend s).prune).header.head = d.header.head.amendFrom s ids := by
      rw [← same]
      exact Element.head_prune _
    rw [head]
    exact ElementHead.amendFrom_rest s ids d.header.head

/-- What stays inside something of the header that stays is there under any overrides. -/
theorem exists_mem_walk_override (s : OverrideSet) (d : DocumentTree) {block inner : Element}
    (blockIn : block ∈ d.header.children) (innerIn : inner ∈ block.children)
    (blockStays : block.head.Stays) (innerStays : inner.head.Stays) :
    ∃ h ∈ (d.override s).header.walk,
      { h with style := inner.head.style, hidden := inner.head.hidden } = inner.head := by
  unfold override
  split
  · have inBlock := Element.walk_subset_walkAll innerIn (Element.head_mem_walk inner)
    have whole (element : Element) : Element.walkAll element.children ⊆ element.walk := by
      cases element
      exact List.subset_cons_self _ _
    exact ⟨inner.head, whole _ (Element.walk_subset_walkAll blockIn (whole _ inBlock)), rfl⟩
  · obtain ⟨ids, inRoot⟩ := Element.exists_walk_subset s
      (Element.addresses (d.sections.map SectionTree.root)) blockIn blockStays
    obtain ⟨ids', inBlock⟩ := Element.exists_walk_subset s ids innerIn innerStays
    obtain ⟨later, same⟩ := Element.head_amend s ids' inner
    refine ⟨(inner.amend s ids').prune.head, inRoot (inBlock (Element.head_mem_walk _)), ?_⟩
    rw [Element.head_prune, same]
    exact ElementHead.amendFrom_rest s later inner.head

end DocumentTree

namespace Assembly

/-- The block of the header that holds the name. -/
def identityBlock (content : Content) : Element :=
  boxElement "div" ["header-identity"] (nameElement content
    :: optionalField "p" "headline" content.headline ["header", "headline"] .headerField)

theorem identityBlock_mem (content : Content) (layout : LayoutTokens) :
    identityBlock content ∈ (header content layout).children := by
  simp [header, Element.children, identityBlock]

theorem nameElement_mem (content : Content) :
    nameElement content ∈ (identityBlock content).children := by
  simp [identityBlock, boxElement, Element.children]

/-- The name of an assembled document stays, whatever overrides leave of the rest. -/
theorem exists_name_of_override {content : Content} {layout : LayoutTokens} {tree : DocumentTree}
    (identified : (DocumentTree.assemble content layout).identify = .ok tree) (s : OverrideSet) :
    ∃ h ∈ (tree.override s).header.walk,
      h.id = some "header-name" ∧ h.text = some content.fullName := by
  obtain rfl := DocumentTree.eq_of_identify identified
  let named := (nameElement content).mapHeads ElementHead.withPathId
  let block := (identityBlock content).mapHeads ElementHead.withPathId
  have blockIn : block ∈ ((header content layout).mapHeads ElementHead.withPathId).children := by
    rw [Element.children_mapHeads]
    exact List.mem_map_of_mem (identityBlock_mem content layout)
  have namedIn : named ∈ block.children := by
    rw [Element.children_mapHeads]
    exact List.mem_map_of_mem (nameElement_mem content)
  obtain ⟨h, mem, rest⟩ := DocumentTree.exists_mem_walk_override s
    ((DocumentTree.assemble content layout).mapHeads ElementHead.withPathId) blockIn namedIn
    ⟨rfl, .inr rfl⟩ ⟨rfl, .inl rfl⟩
  have path : ElementId.ofPath ["header", "name"] = "header-name" := by decide
  have id := congrArg ElementHead.id rest
  have text := congrArg ElementHead.text rest
  exact ⟨h, mem, id.trans (congrArg some path), text⟩

end Assembly

/-- Overrides are exact. Where ids are unique and nothing is hidden yet, every element but the root
of the header stays if and only if neither its own override hides it nor that of an element around
it other than that root; what stays keeps its order, its place and everything but the two colours.
The name of an assembled document always stays. All this is for ids that are texts: with any other
id there is no tree. -/
theorem override_exact (s : OverrideSet) :
    (∀ d : DocumentTree, (Element.addresses d.roots).Nodup → (∀ h ∈ d.walk, h.hidden = false) →
      s.isEmpty = false → (∀ o ∈ s.entries, o.id.isText) →
        ∃ after report, d.applyOverrides s = .ok (after, report)
          ∧ after.header.lineages
            = (d.header.lineages.filter fun line => !line.tail.any s.hides).map (·.map s.revise)
          ∧ after.sections.map (fun t => (t.kind, t.column, t.root.lineages))
            = (d.sections.filter fun t => !s.hides t.root.head).map (fun t => (t.kind, t.column,
              (t.root.lineages.filter fun line => !line.any s.hides).map (·.map s.revise)))
          ∧ ∀ h ∈ d.walk, s.Recolours h (s.revise h))
    ∧ (∀ (content : Content) (layout : LayoutTokens) (tree : DocumentTree),
      (DocumentTree.assemble content layout).identify = .ok tree →
        (∀ o ∈ s.entries, o.id.isText) → ∃ after report, tree.applyOverrides s = .ok (after, report)
          ∧ after.header.head.id = some "header"
          ∧ after.header.head.text = tree.header.head.text
          ∧ ∃ h ∈ after.header.walk, h.id = some "header-name" ∧ h.text = some content.fullName)
    ∧ ∀ d : DocumentTree, (∃ o ∈ s.entries, o.id.isText = false) →
      d.applyOverrides s = .error (.misuse .wrongType) := by
  refine ⟨fun d unique shown some named => ?_, fun content layout tree identified named => ?_,
    fun d ⟨o, mem, unnamed⟩ => DocumentTree.applyOverrides_of_not_isText mem unnamed d⟩
  · refine ⟨_, _, DocumentTree.applyOverrides_of_isText named d, ?_, ?_,
      fun h mem => s.recolours_revise h⟩
    · rw [DocumentTree.header_override s unique shown some, Element.lineages_prune_mapHeads]
    · rw [DocumentTree.sections_override s unique shown some, List.map_map]
      apply List.map_congr_left
      intro t mem
      have stays : s.hides t.root.head = false := by simpa using (List.mem_filter.mp mem).2
      rw [Function.comp_apply, Element.lineages_prune_mapHeads,
        Element.filter_lineages_of_shown stays]
  · refine ⟨_, _, DocumentTree.applyOverrides_of_isText named tree, ?_, ?_,
      Assembly.exists_name_of_override identified s⟩
    · have id := congrArg ElementHead.id (DocumentTree.head_header_override s tree)
      obtain rfl := DocumentTree.eq_of_identify identified
      exact id
    · have text := congrArg ElementHead.text (DocumentTree.head_header_override s tree)
      exact text

/-- A header with a headline, and an override that hides the headline. -/
def headlineTree : DocumentTree :=
  ⟨.node { tag := "header", id := some "header", required := true }
    [.node { tag := "p", text := some "Engineer", id := some "header-headline" } []], []⟩

def headlineHidden : OverrideSet :=
  .ofList [⟨.string "header-headline", .headerField, true, none, none⟩] .epoch

def plainLayout : LayoutTokens :=
  ⟨.singleColumn, .simple, .clean, SectionKind.all, .comfortable, .tags, true, .bullets, true,
    .singleRow, .none, false, false⟩

theorem override_exact_headline :
    (Element.addresses headlineTree.roots).Nodup ∧ (∀ h ∈ headlineTree.walk, h.hidden = false)
      ∧ headlineHidden.isEmpty = false ∧ (∀ o ∈ headlineHidden.entries, o.id.isText)
      ∧ (∃ after report, headlineTree.applyOverrides headlineHidden = .ok (after, report)
        ∧ after.header.lineages = (headlineTree.header.lineages.filter
          fun line => !line.tail.any headlineHidden.hides).map (·.map headlineHidden.revise))
      ∧ ∃ tree, (DocumentTree.assemble { fullName := "Ada" } plainLayout).identify = .ok tree
        ∧ ∃ after report, tree.applyOverrides headlineHidden = .ok (after, report)
          ∧ after.header.head.id = some "header" := by
  have unique : (Element.addresses headlineTree.roots).Nodup := by decide
  have shown : ∀ h ∈ headlineTree.walk, h.hidden = false := by decide
  have some : headlineHidden.isEmpty = false := by decide
  have named : ∀ o ∈ headlineHidden.entries, o.id.isText := by decide
  have identified : ∃ tree,
      (DocumentTree.assemble { fullName := "Ada" } plainLayout).identify = .ok tree := ⟨_, rfl⟩
  obtain ⟨tree, identified⟩ := identified
  obtain ⟨exact, assembled, -⟩ := override_exact headlineHidden
  obtain ⟨after, report, applied, header, -⟩ := exact headlineTree unique shown some named
  obtain ⟨after', report', applied', root, -⟩ := assembled _ plainLayout tree identified named
  exact ⟨unique, shown, some, named, ⟨after, report, applied, header⟩, tree, identified, after',
    report', applied', root⟩

/-- A colour for an element that is a number. -/
def numberColoured : OverrideSet :=
  .ofList [⟨.int 5, .field, false, some (.rgb 0 0 0x80), none⟩] .epoch

/-- A number names no element of a tree, and yet there is no tree under its override. -/
theorem override_of_number_not_skipped :
    (Element.addresses headlineTree.roots).Nodup ∧ (∀ h ∈ headlineTree.walk, h.hidden = false)
      ∧ numberColoured.isEmpty = false
      ∧ (∀ o ∈ numberColoured.entries, headlineTree.lookUp o.id = none)
      ∧ ¬ ∃ after report, headlineTree.applyOverrides numberColoured = .ok (after, report) := by
  have refused : headlineTree.applyOverrides numberColoured = .error (.misuse .wrongType) :=
    DocumentTree.applyOverrides_of_not_isText List.mem_cons_self rfl headlineTree
  refine ⟨by decide, by decide, rfl, by decide, ?_⟩
  rintro ⟨after, report, applied⟩
  rw [refused] at applied
  cases applied

end Vitae
