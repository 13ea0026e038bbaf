import Mathlib.Data.List.Pairwise
import Vitae.Proofs.Override.Relevance

/-!
What is reported of overrides. A report tells of every override whether it names an element, and
lists the outermost of the elements that are taken out; with what is inside them they are exactly
the elements that are gone.
-/

namespace Vitae

namespace Element

mutual

/-- The elements of a tree in document order, each behind the heads of those around it. -/
def places (around : List ElementHead) : Element → List (List ElementHead × Element)
  | .node head children =>
    (around, .node head children) :: placesAll (around ++ [head]) children

def placesAll (around : List ElementHead) : List Element → List (List ElementHead × Element)
  | [] => []
  | element :: rest => places around element ++ placesAll around rest

end

theorem prunedIdsAll_append (elements others : List Element) :
    prunedIdsAll (elements ++ others) = prunedIdsAll elements ++ prunedIdsAll others := by
  induction elements with
  | nil => rfl
  | cons element elements ih => simp [prunedIdsAll, ih]

theorem pruneAll_append (elements others : List Element) :
    pruneAll (elements ++ others) = pruneAll elements ++ pruneAll others := by
  induction elements with
  | nil => rfl
  | cons element elements ih =>
    rw [List.cons_append, pruneAll, pruneAll]
    split
    · exact ih
    · rw [ih, List.cons_append]

end Element

namespace OverrideSet

/-- Whether an element is hidden while nothing around it is. -/
def hidesFirst (s : OverrideSet) (place : List ElementHead × Element) : Bool :=
  s.hides place.2.head && !place.1.any s.hides

/-- The outermost hidden elements among some behind the same heads, each with everything inside
it. -/
def outermost (s : OverrideSet) (around : List ElementHead) (elements : List Element) :
    List Element :=
  ((Element.placesAll around elements).filter s.hidesFirst).map Prod.snd

variable {s : OverrideSet}

mutual

theorem not_hidesFirst_of_mem_places {around : List ElementHead} (hidden : around.any s.hides)
    {element : Element} {place : List ElementHead × Element}
    (mem : place ∈ element.places around) : s.hidesFirst place = false := by
  match element with
  | .node head children =>
    rw [Element.places, List.mem_cons] at mem
    rcases mem with rfl | mem
    · simp [hidesFirst, hidden]
    · exact not_hidesFirst_of_mem_placesAll (by simp [hidden]) mem

theorem not_hidesFirst_of_mem_placesAll {around : List ElementHead} (hidden : around.any s.hides)
    {elements : List Element} {place : List ElementHead × Element}
    (mem : place ∈ Element.placesAll around elements) : s.hidesFirst place = false := by
  match elements with
  | [] => simp [Element.placesAll] at mem
  | element :: rest =>
    rw [Element.placesAll, List.mem_append] at mem
    rcases mem with mem | mem
    · exact not_hidesFirst_of_mem_places hidden mem
    · exact not_hidesFirst_of_mem_placesAll hidden mem

end

variable {around : List ElementHead} {head : ElementHead}

/-- What is hidden has an id to name it by. -/
theorem isSome_address?_of_mem_outermost {elements : List Element} {element : Element}
    (mem : element ∈ s.outermost around elements) : element.head.address?.isSome := by
  obtain ⟨place, inside, rfl⟩ := List.mem_map.mp mem
  have hidden := (List.mem_filter.mp inside).2
  simp only [hidesFirst, hides, for?, Bool.and_eq_true] at hidden
  cases address : place.2.head.address? with
  | none => simp [address] at hidden
  | some id => rfl

/-- An element that is hidden is outermost, and nothing inside it. -/
theorem outermost_cons_of_hides (shown : around.any s.hides = false) (hidden : s.hides head)
    (children rest : List Element) : s.outermost around (.node head children :: rest)
      = .node head children :: s.outermost around rest := by
  have below : (around ++ [head]).any s.hides := by simp [hidden]
  have inner : (Element.placesAll (around ++ [head]) children).filter s.hidesFirst = [] := by
    rw [List.filter_eq_nil_iff]
    intro place mem
    simp [not_hidesFirst_of_mem_placesAll below mem]
  have own : s.hidesFirst (around, .node head children) := by
    simp [hidesFirst, Element.head, hidden, shown]
  rw [outermost, Element.placesAll, Element.places, List.cons_append, List.filter_cons_of_pos own,
    List.filter_append, inner]
  rfl

/-- In an element that is shown, the outermost hidden ones are inside it. -/
theorem outermost_cons_of_shown (shown : s.hides head = false) (children rest : List Element) :
    s.outermost around (.node head children :: rest)
      = s.outermost (around ++ [head]) children ++ s.outermost around rest := by
  have own : ¬ s.hidesFirst (around, .node head children) := by
    simp [hidesFirst, Element.head, shown]
  rw [outermost, Element.placesAll, Element.places, List.cons_append,
    List.filter_cons_of_neg own, List.filter_append, List.map_append]
  rfl

end OverrideSet

namespace Element

variable (s : OverrideSet)

/-- Taking out the hidden elements of a marked list goes by its first one. -/
theorem pruneAll_revised_cons (head : ElementHead) (children rest : List Element) :
    pruneAll (mapHeadsAll s.revise (.node head children :: rest))
      = if s.hides head then pruneAll (mapHeadsAll s.revise rest)
        else .node (s.revise head) (pruneAll (mapHeadsAll s.revise children))
          :: pruneAll (mapHeadsAll s.revise rest) := by
  rw [mapHeadsAll, mapHeads, pruneAll]
  rfl

theorem prunedIdsAll_revised_cons (head : ElementHead) (children rest : List Element) :
    prunedIdsAll (mapHeadsAll s.revise (.node head children :: rest))
      = (if s.hides head then [head.id] else prunedIdsAll (mapHeadsAll s.revise children))
        ++ prunedIdsAll (mapHeadsAll s.revise rest) := by
  rw [mapHeadsAll, mapHeads, prunedIdsAll]
  rfl

/-- The elements that are taken out are reported by the ids of the outermost ones. -/
theorem prunedIdsAll_revised {around : List ElementHead} (shown : around.any s.hides = false)
    (elements : List Element) : prunedIdsAll (mapHeadsAll s.revise elements)
      = (s.outermost around elements).map fun element => element.head.id := by
  match elements with
  | [] => rfl
  | .node head children :: rest =>
    have others := prunedIdsAll_revised shown rest
    rw [prunedIdsAll_revised_cons, others]
    cases hidden : s.hides head with
    | true =>
      rw [if_pos rfl, OverrideSet.outermost_cons_of_hides shown hidden]
      rfl
    | false =>
      have below : (around ++ [head]).any s.hides = false := by simp_all
      have inner := prunedIdsAll_revised below children
      rw [if_neg (by simp), inner, OverrideSet.outermost_cons_of_shown hidden, List.map_append]

/-- The ids that are left and those in the outermost hidden elements are all there were. -/
theorem addresses_pruneAll_perm {around : List ElementHead} (shown : around.any s.hides = false)
    (elements : List Element) :
    (addresses elements).Perm (addresses (pruneAll (mapHeadsAll s.revise elements))
      ++ addresses (s.outermost around elements)) := by
  match elements with
  | [] => exact .refl _
  | .node head children :: rest =>
    have others := addresses_pruneAll_perm shown rest
    rw [pruneAll_revised_cons, addresses_cons]
    cases hidden : s.hides head with
    | true =>
      rw [if_pos rfl, OverrideSet.outermost_cons_of_hides shown hidden,
        addresses_cons _ (s.outermost around rest)]
      exact (others.append_left _).trans (List.perm_append_comm_assoc _ _ _)
    | false =>
      have below : (around ++ [head]).any s.hides = false := by simp_all
      have inner := addresses_pruneAll_perm below children
      have address : (s.revise head).address? = head.address? := rfl
      rw [if_neg (by simp), OverrideSet.outermost_cons_of_shown hidden, addresses_append,
        addresses_cons (.node (s.revise head) _), addresses_node, addresses_node, address,
        List.append_assoc, List.append_assoc, List.append_assoc]
      have parts := inner.append others
      rw [List.append_assoc] at parts
      exact (parts.trans ((List.perm_append_comm_assoc _ _ _).append_left _)).append_left _

theorem address?_congr {h other : ElementHead} (same : h.id = other.id) :
    h.address? = other.address? := by
  rw [ElementHead.address?, same, ElementHead.address?]

theorem walkAll_children_subset {element : Element} {elements : List Element}
    (mem : element ∈ elements) : walkAll element.children ⊆ walkAll elements := by
  have inside : walkAll element.children ⊆ element.walk := by
    cases element
    exact List.subset_cons_self _ _
  exact List.Subset.trans inside (walk_subset_walkAll mem)

/-- The ids inside some elements of which each can be named and no two alike: those of the elements
themselves differ, and are not met again further inside. -/
theorem ids_of_nodup_addresses {elements : List Element} (unique : (addresses elements).Nodup)
    (named : ∀ element ∈ elements, element.head.address?.isSome) :
    (elements.map fun element => element.head.id).Nodup
      ∧ ∀ element ∈ elements, ∀ h ∈ walkAll element.children,
        h.id ∉ elements.map fun element => element.head.id := by
  induction elements with
  | nil => exact ⟨.nil, by simp⟩
  | cons first rest ih =>
    obtain ⟨head, children⟩ := first
    have whole : (addresses [.node head children] ++ addresses rest).Nodup := by
      rwa [← addresses_cons]
    obtain ⟨own, inner⟩ := nodup_addresses_node whole
    obtain ⟨-, others, apart⟩ := List.nodup_append.mp inner
    obtain ⟨distinct, below⟩ := ih others fun element mem =>
      named element (List.mem_cons_of_mem _ mem)
    obtain ⟨id, address⟩ := Option.isSome_iff_exists.mp (named _ List.mem_cons_self)
    obtain ⟨notInside, notLater⟩ := not_or.mp (mt List.mem_append.mpr (own id address))
    have met {h : ElementHead} {elements : List Element} (mem : h ∈ walkAll elements)
        (same : h.id = head.id) : id ∈ addresses elements :=
      List.mem_filterMap.mpr ⟨h, mem, (address?_congr same).trans address⟩
    have inRest {element : Element} (mem : element ∈ rest) : element.head ∈ walkAll rest :=
      walk_subset_walkAll mem element.head_mem_walk
    rw [List.map_cons, List.nodup_cons, List.forall_mem_cons]
    refine ⟨⟨fun again => ?_, distinct⟩, fun h mem again => ?_,
      fun element inside h mem again => ?_⟩
    · obtain ⟨element, inside, same⟩ := List.mem_map.mp again
      exact notLater (met (inRest inside) same)
    · rcases List.mem_cons.mp again with same | again
      · exact notInside (met mem same)
      · obtain ⟨element, inside, same⟩ := List.mem_map.mp again
        obtain ⟨other, known⟩ := Option.isSome_iff_exists.mp
          (named element (List.mem_cons_of_mem _ inside))
        exact apart other (List.mem_filterMap.mpr ⟨h, mem, (address?_congr same.symm).trans known⟩)
          other (List.mem_filterMap.mpr ⟨_, inRest inside, known⟩) rfl
    · rcases List.mem_cons.mp again with same | again
      · exact notLater (met (walkAll_children_subset inside mem) same)
      · exact below element inside h mem again

end Element

/-- The ids of a set of overrides, in the order of its entries. -/
def OverrideSet.ids (s : OverrideSet) : List ElementId := s.entries.map ElementOverride.id

namespace DocumentTree

/-- Everything that can be taken out: what is inside the header, and the sections. -/
def removable (d : DocumentTree) : List Element :=
  d.header.children ++ d.sections.map SectionTree.root

theorem removable_mapHeads (f : ElementHead → ElementHead) (d : DocumentTree) :
    (d.mapHeads f).removable = Element.mapHeadsAll f d.removable := by
  rw [removable, removable, Element.mapHeadsAll_eq_map, List.map_append]
  simp [mapHeads, mapRoots, Element.children_mapHeads, Function.comp_def]

theorem prunedIds_eq (d : DocumentTree) : d.prunedIds = Element.prunedIdsAll d.removable := by
  obtain ⟨⟨head, children⟩, sections⟩ := d
  rw [removable, Element.prunedIdsAll_append]
  rfl

theorem addresses_roots (d : DocumentTree) : Element.addresses d.roots
    = d.header.head.address?.toList ++ Element.addresses d.removable := by
  obtain ⟨⟨head, children⟩, sections⟩ := d
  rw [roots, Element.addresses_cons, Element.addresses_node, removable, Element.addresses_append,
    List.append_assoc]
  rfl

theorem removable_prune (d : DocumentTree) :
    d.prune.removable = Element.pruneAll d.removable := by
  obtain ⟨⟨head, children⟩, sections⟩ := d
  have each : (sections.filter fun t => !t.root.head.hidden).map (fun t => t.root.prune)
      = Element.pruneAll (sections.map SectionTree.root) := by
    induction sections with
    | nil => rfl
    | cons t sections ih =>
      rw [List.map_cons, Element.pruneAll, ← ih]
      cases hidden : t.root.head.hidden <;> simp [hidden]
  rw [removable, removable, Element.pruneAll_append, ← each]
  simp [prune, Element.prune, Element.children, Function.comp_def]

variable {d : DocumentTree}

section

variable (unique : (Element.addresses d.roots).Nodup) (shown : ∀ h ∈ d.walk, h.hidden = false)

include unique shown

theorem hidden_overrideReport (s : OverrideSet) : (d.overrideReport s).hidden
    = (s.outermost [] d.removable).map fun element => element.head.id := by
  have hidden : (d.report s).hidden = (d.amend s).prunedIds := rfl
  have none : ([] : List ElementHead).any s.hides = false := rfl
  rw [overrideReport_eq_report unique shown, hidden, amend_eq_mapHeads s unique shown,
    prunedIds_eq, removable_mapHeads, Element.prunedIdsAll_revised s none]

/-- Every id is either left or in an outermost hidden element. -/
theorem addresses_override_perm (s : OverrideSet) : (Element.addresses d.roots).Perm
    (Element.addresses (d.override s).roots
      ++ Element.addresses (s.outermost [] d.removable)) := by
  have header : (d.mapHeads s.revise).prune.header.head.address? = d.header.head.address? := by
    obtain ⟨⟨head, children⟩, sections⟩ := d
    rfl
  have none : ([] : List ElementHead).any s.hides = false := rfl
  rw [override_eq_prune unique shown, amend_eq_mapHeads s unique shown, addresses_roots,
    addresses_roots, header, removable_prune, removable_mapHeads, List.append_assoc]
  exact (Element.addresses_pruneAll_perm s none d.removable).append_left _

end

/-- An id names one element at most. -/
theorem find?_eq_some_iff (unique : (Element.addresses d.roots).Nodup) {id : String}
    {h : ElementHead} :
    d.find? id = some h ↔ h ∈ d.walk ∧ h.address? = some id := by
  have only : ∀ a ∈ d.walk, ∀ b ∈ d.walk, a.address? = some id → b.address? = some id → a = b := by
    intro a memA b memB addressA addressB
    by_contra differ
    have apart := List.pairwise_filterMap.mp unique
    have symmetric : Std.Symm fun a b : ElementHead => ∀ x, a.address? = some x →
        ∀ y, b.address? = some y → x ≠ y := ⟨fun _ _ far x ofX y ofY => (far y ofY x ofX).symm⟩
    exact apart.forall memA memB differ id addressA id addressB rfl
  constructor
  · intro found
    exact ⟨List.mem_reverse.mp (List.mem_of_find?_eq_some found),
      by simpa using List.find?_some found⟩
  · rintro ⟨mem, address⟩
    cases found : d.find? id with
    | none => simpa [address] using List.find?_eq_none.mp found h (List.mem_reverse.mpr mem)
    | some other =>
      have inside := List.mem_reverse.mp (List.mem_of_find?_eq_some found)
      rw [only other inside h mem (by simpa using List.find?_some found) address]

/-! The lists of ids -/

theorem idsWhere_eq_filter (pick : Option ElementHead → Bool) (s : OverrideSet)
    (d : DocumentTree) : idsWhere (fun _ found => pick found) s d
      = s.ids.filter fun id => pick (d.lookUp id) := by
  rw [idsWhere, OverrideSet.ids, List.filter_map]
  rfl

theorem map_text_textsOf {ids : List ElementId} (texts : ∀ id ∈ ids, id.isText) :
    (textsOf ids).map ElementId.text = ids := by
  induction ids with
  | nil => rfl
  | cons id ids ih =>
    have others := ih fun id mem => texts id (List.mem_cons_of_mem _ mem)
    have first := texts id List.mem_cons_self
    cases id with
    | text text => exact congrArg (.text text :: ·) others
    | _ => cases first

theorem isText_of_mem_idsWhere (s : OverrideSet) (d : DocumentTree) :
    ∀ id ∈ idsWhere (fun _ found => found.isSome) s d, id.isText := by
  intro id mem
  obtain ⟨o, inside, rfl⟩ := List.mem_map.mp mem
  have found := (List.mem_filter.mp inside).2
  cases named : o.id <;> simp_all [lookUp, ElementId.isText]

theorem mem_textsOf {id : String} {ids : List ElementId} : id ∈ textsOf ids ↔ .text id ∈ ids := by
  rw [textsOf, List.mem_filterMap]
  constructor
  · rintro ⟨other, mem, same⟩
    cases other with
    | text text => exact Option.some.inj same ▸ mem
    | _ => cases same
  · exact fun mem => ⟨.text id, mem, rfl⟩

theorem mem_applied_iff {s : OverrideSet} {id : String} :
    id ∈ (d.report s).applied ↔ .text id ∈ s.ids ∧ id ∈ Element.addresses d.roots := by
  show id ∈ textsOf (idsWhere (fun _ found => found.isSome) s d) ↔ _
  rw [mem_textsOf, idsWhere_eq_filter Option.isSome, List.mem_filter, isSome_lookUp_iff]
  simp

theorem ignored_sublist (s : OverrideSet) (d : DocumentTree) :
    (d.report s).ignored.Sublist (d.report s).applied := by
  apply List.Sublist.filterMap
  apply List.Sublist.map
  apply List.monotone_filter_right
  intro o required
  cases found : d.lookUp o.id <;> simp_all

theorem mem_ignored_iff (unique : (Element.addresses d.roots).Nodup) {s : OverrideSet}
    {id : String} : id ∈ (d.report s).ignored ↔
      (∃ o, s.get? (.text id) = some o ∧ o.hidden)
        ∧ ∃ h ∈ d.walk, h.address? = some id ∧ h.required := by
  have element : (d.lookUp (.text id)).any ElementHead.required
      ↔ ∃ h ∈ d.walk, h.address? = some id ∧ h.required := by
    show (d.find? id).any ElementHead.required ↔ _
    constructor
    · intro required
      obtain ⟨h, found, required⟩ := Option.any_eq_true _ _ |>.mp required
      obtain ⟨mem, address⟩ := (find?_eq_some_iff unique).mp found
      exact ⟨h, mem, address, required⟩
    · rintro ⟨h, mem, address, required⟩
      rw [(find?_eq_some_iff unique).mpr ⟨mem, address⟩]
      exact required
  show id ∈ textsOf (idsWhere (fun o found => o.hidden && found.any (·.required)) s d) ↔ _
  rw [mem_textsOf, ← element, idsWhere, List.mem_map]
  simp only [List.mem_filter, Bool.and_eq_true, OverrideSet.get?_eq_some_iff]
  constructor
  · rintro ⟨o, ⟨mem, hidden, required⟩, own⟩
    exact ⟨⟨o, ⟨mem, own⟩, hidden⟩, own ▸ required⟩
  · rintro ⟨⟨o, ⟨mem, own⟩, hidden⟩, required⟩
    exact ⟨o, ⟨mem, hidden, own ▸ required⟩, own⟩

end DocumentTree

/-- A report that tells what became of every override and of every element of a tree, of which some
are left. -/
structure OverrideReport.IsFaithful (r : OverrideReport) (s : OverrideSet)
    (d after : DocumentTree) : Prop where
  applied : (r.applied.map ElementId.text).Sublist s.ids
  stale : r.stale.Sublist s.ids
  whole : (r.applied.map ElementId.text ++ r.stale).Perm s.ids
  once : (r.applied.map ElementId.text ++ r.stale).Nodup
  found : ∀ id, id ∈ r.applied ↔ .text id ∈ s.ids ∧ id ∈ Element.addresses d.roots
  ignored : r.ignored.Sublist r.applied
  required : ∀ id, id ∈ r.ignored ↔
    (∃ o, s.get? (.text id) = some o ∧ o.hidden)
      ∧ ∃ h ∈ d.walk, h.address? = some id ∧ h.required
  hidden : r.hidden = (s.outermost [] d.removable).map fun element => element.head.id
  distinct : r.hidden.Nodup
  outermost : ∀ element ∈ s.outermost [] d.removable, ∀ h ∈ Element.walkAll element.children,
    h.id ∉ r.hidden
  gone : (Element.addresses d.roots).Perm
    (Element.addresses after.roots ++ Element.addresses (s.outermost [] d.removable))
  apart : List.Disjoint (Element.addresses after.roots)
    (Element.addresses (s.outermost [] d.removable))

open DocumentTree in
theorem isFaithful_overrideReport (s : OverrideSet) {d : DocumentTree}
    (unique : (Element.addresses d.roots).Nodup) (shown : ∀ h ∈ d.walk, h.hidden = false) :
    (d.overrideReport s).IsFaithful s d (d.override s) := by
  have told := overrideReport_eq_report unique shown s
  have hidden := hidden_overrideReport unique shown s
  have gone := addresses_override_perm unique shown s
  obtain ⟨-, removed, apart⟩ := List.nodup_append.mp (gone.nodup_iff.mp unique)
  obtain ⟨distinct, outermost⟩ := Element.ids_of_nodup_addresses removed
    fun element mem => OverrideSet.isSome_address?_of_mem_outermost mem
  have applied : (d.overrideReport s).applied.map ElementId.text
      = s.ids.filter fun id => (d.lookUp id).isSome := by
    rw [told, ← idsWhere_eq_filter Option.isSome]
    exact map_text_textsOf (isText_of_mem_idsWhere s d)
  have stale : (d.overrideReport s).stale = s.ids.filter fun id => !(d.lookUp id).isSome := by
    rw [told, ← idsWhere_eq_filter fun found => !found.isSome]
    simp [report]
  have whole : ((d.overrideReport s).applied.map ElementId.text
      ++ (d.overrideReport s).stale).Perm s.ids := by
    rw [applied, stale]
    exact List.filter_append_perm _ s.ids
  exact {
    applied := applied ▸ List.filter_sublist
    stale := stale ▸ List.filter_sublist
    whole := whole
    once := whole.nodup_iff.mpr s.distinct
    found := fun id => told ▸ mem_applied_iff
    ignored := told ▸ ignored_sublist s d
    required := fun id => told ▸ mem_ignored_iff unique
    hidden := hidden
    distinct := hidden ▸ distinct
    outermost := hidden ▸ outermost
    gone := gone
    apart := fun id left right => apart id left id right rfl }

/-- Reports are faithful. Where ids are unique and nothing is hidden yet, the overrides that are
applied and the stale ones are those that name an element and those that do not, all of them in
their order and each once; ignored are those applied that would hide a required element. The hidden
elements are, in document order, those that their own override hides while none around them is
hidden, and with what is inside them they are all that is gone. All this is for ids that are texts:
with any other id there is no report. -/
theorem overrideReport_isFaithful (s : OverrideSet) (d : DocumentTree) :
    ((Element.addresses d.roots).Nodup → (∀ h ∈ d.walk, h.hidden = false) →
      (∀ o ∈ s.entries, o.id.isText) →
        ∃ after report, d.applyOverrides s = .ok (after, report) ∧ report.IsFaithful s d after)
    ∧ ((∃ o ∈ s.entries, o.id.isText = false) →
      d.applyOverrides s = .error (.misuse .wrongType)) :=
  ⟨fun unique shown named => ⟨_, _, DocumentTree.applyOverrides_of_isText named d,
      isFaithful_overrideReport s unique shown⟩,
    fun ⟨_, mem, unnamed⟩ => DocumentTree.applyOverrides_of_not_isText mem unnamed d⟩

/-- A required name in a group without an id, beside a headline, and a section in a section. -/
def nestedTree : DocumentTree :=
  { header :=
      .node { tag := "header", id := some "header", required := true }
        [.node { tag := "div" }
          [.node { tag := "h1", id := some "header-name", required := true } [],
            .node { tag := "span", id := some "phone" } []],
          .node { tag := "p", id := some "headline" } []]
    sections :=
      [⟨.summary, .main,
        .node { tag := "section", id := some "summary" }
          [.node { tag := "div", id := some "summary-text" } []]⟩] }

def nestedOverrides : List ElementOverride :=
  ["summary-text", "gone", "header-name", "summary", "phone"].map fun id =>
    ⟨.string id, .field, true, none, none⟩

/-- The text in the hidden summary is not listed, and the name stays. -/
theorem overrideReport_isFaithful_nested :
    (Element.addresses nestedTree.roots).Nodup ∧ (∀ h ∈ nestedTree.walk, h.hidden = false)
      ∧ (∀ o ∈ (OverrideSet.ofList nestedOverrides .epoch).entries, o.id.isText)
      ∧ ∃ after report, nestedTree.applyOverrides (.ofList nestedOverrides .epoch)
          = .ok (after, report)
        ∧ report.IsFaithful (.ofList nestedOverrides .epoch) nestedTree after
        ∧ report = { applied := ["summary-text", "header-name", "summary", "phone"]
                     stale := [.text "gone"], ignored := ["header-name"]
                     hidden := [some "phone", some "summary"] }
        ∧ Element.addresses after.roots = ["header", "header-name", "headline"] := by
  have unique : (Element.addresses nestedTree.roots).Nodup := by decide
  have shown : ∀ h ∈ nestedTree.walk, h.hidden = false := by decide
  have named : ∀ o ∈ (OverrideSet.ofList nestedOverrides .epoch).entries, o.id.isText := by decide
  obtain ⟨after, report, applied, faithful⟩ :=
    (overrideReport_isFaithful (.ofList nestedOverrides .epoch) nestedTree).1 unique shown named
  obtain ⟨-, rfl, rfl⟩ := DocumentTree.eq_of_applyOverrides applied
  exact ⟨unique, shown, named, _, _, applied, faithful, by decide, by decide⟩

/-- An override of the summary and one of a number, which names no element. -/
def numberAmong : OverrideSet :=
  .ofList [⟨.string "summary", .field, true, none, none⟩, ⟨.int 5, .field, true, none, none⟩] .epoch

/-- A number that should be listed as stale leaves nothing to be listed. -/
theorem number_not_reported_stale :
    (Element.addresses nestedTree.roots).Nodup ∧ (∀ h ∈ nestedTree.walk, h.hidden = false)
      ∧ numberAmong.isEmpty = false
      ∧ ¬ ∃ after report, nestedTree.applyOverrides numberAmong = .ok (after, report) := by
  have refused : nestedTree.applyOverrides numberAmong = .error (.misuse .wrongType) :=
    DocumentTree.applyOverrides_of_not_isText
      (List.mem_cons_of_mem _ List.mem_cons_self) rfl nestedTree
  refine ⟨by decide, by decide, rfl, ?_⟩
  rintro ⟨after, report, applied⟩
  rw [refused] at applied
  cases applied

end Vitae
