import Vitae.Proofs.Document.Omission

/-!
What of a set of overrides matters. Neither the order of the entries nor those that name no element
have any effect on a document.
-/

namespace Vitae

namespace OverrideSet

/-- The overrides of elements that are among some ids. -/
def within (s : OverrideSet) (ids : List String) : OverrideSet :=
  ⟨s.entries.filter fun o => o.id ∈ ids.map ElementId.text, s.lastModified,
    s.distinct.sublist (List.filter_sublist.map ElementOverride.id)⟩

variable {s : OverrideSet} {ids : List String}

theorem mem_within {o : ElementOverride} :
    o ∈ (s.within ids).entries ↔ o ∈ s.entries ∧ o.id ∈ ids.map ElementId.text := by
  simp only [within, List.mem_filter, decide_eq_true_eq]

theorem get?_within {id : String} (inside : id ∈ ids) :
    (s.within ids).get? (.text id) = s.get? (.text id) := by
  ext o
  rw [get?_eq_some_iff, get?_eq_some_iff, mem_within]
  constructor
  · rintro ⟨⟨mem, -⟩, names⟩
    exact ⟨mem, names⟩
  · rintro ⟨mem, names⟩
    exact ⟨⟨mem, names ▸ List.mem_map_of_mem inside⟩, names⟩

theorem for?_within {h : ElementHead} (inside : ∀ id, h.address? = some id → id ∈ ids) :
    (s.within ids).for? h = s.for? h := by
  unfold for?
  cases address : h.address? with
  | none => rfl
  | some id => exact get?_within (inside id address)

/-- What names some element can be reported. -/
theorem isText_within (s : OverrideSet) (ids : List String) :
    ∀ o ∈ (s.within ids).entries, o.id.isText := by
  intro o mem
  obtain ⟨id, -, same⟩ := List.mem_map.mp (mem_within.mp mem).2
  rw [← same]
  rfl

end OverrideSet

/-- Two reports that tell the same, in whatever order the entries stood. -/
structure OverrideReport.SameUpToOrder (r other : OverrideReport) : Prop where
  hidden : r.hidden = other.hidden
  applied : r.applied.Perm other.applied
  ignored : r.ignored.Perm other.ignored
  stale : r.stale.Perm other.stale

/-! One override after another -/

namespace ElementHead

/-- Writes an override into the element it names, and into no other. -/
def mark (o : ElementOverride) (h : ElementHead) : ElementHead :=
  if h.address?.map ElementId.text = some o.id then h.amend o else h

theorem address?_mark (o : ElementOverride) (h : ElementHead) :
    (h.mark o).address? = h.address? := by
  unfold mark
  split
  · simp [amend, putStyle_eq, address?]
  · rfl

theorem foldl_mark_of_not_mem {h : ElementHead} {entries : List ElementOverride}
    (none : ∀ o ∈ entries, h.address?.map ElementId.text ≠ some o.id) :
    entries.foldl (fun h o => h.mark o) h = h := by
  induction entries with
  | nil => rfl
  | cons o entries ih =>
    have same : h.mark o = h := if_neg (none o (by simp))
    rw [List.foldl_cons, same, ih fun other mem => none other (by simp [mem])]

/-- Whatever stands before and after it, only the override of an element is written into it. -/
theorem foldl_mark_of_mem {h : ElementHead} {o : ElementOverride} {entries : List ElementOverride}
    (distinct : (entries.map ElementOverride.id).Nodup) (mem : o ∈ entries)
    (own : h.address?.map ElementId.text = some o.id) :
    entries.foldl (fun h o => h.mark o) h = h.amend o := by
  induction entries generalizing h with
  | nil => simp at mem
  | cons first entries ih =>
    rw [List.map_cons, List.nodup_cons] at distinct
    rw [List.foldl_cons]
    rcases List.mem_cons.mp mem with rfl | mem
    · have marked : h.mark o = h.amend o := if_pos own
      have address := address?_mark o h
      rw [foldl_mark_of_not_mem, marked]
      intro other inside
      rw [address, own]
      rintro same
      exact distinct.1 (Option.some.inj same ▸ List.mem_map_of_mem inside)
    · have same : h.mark first = h := by
        apply if_neg
        rw [own]
        rintro same
        exact distinct.1 (Option.some.inj same ▸ List.mem_map_of_mem mem)
      rw [same, ih distinct.2 mem own]

/-- Taken one after another, the overrides of a set revise an element as the set does. -/
theorem foldl_mark_eq_revise (s : OverrideSet) {h : ElementHead} (shown : h.hidden = false) :
    s.entries.foldl (fun h o => h.mark o) h = s.revise h := by
  have alone : ∀ id, h.address? = some id → id ∉ ([] : List String) := by simp
  rw [← amendFrom_eq_revise s alone shown, amendFrom]
  cases address : h.address? with
  | none => exact foldl_mark_of_not_mem (by simp [address])
  | some id =>
    dsimp only
    rw [if_neg (by simp)]
    cases found : s.get? (.text id) with
    | none =>
      apply foldl_mark_of_not_mem
      rintro o mem same
      have own : .text id = o.id := by simpa [address] using same
      simp [OverrideSet.get?_eq_some_iff.mpr ⟨mem, own.symm⟩] at found
    | some o =>
      obtain ⟨mem, own⟩ := OverrideSet.get?_eq_some_iff.mp found
      exact foldl_mark_of_mem s.distinct mem (by rw [address, own]; rfl)

end ElementHead

namespace Element

mutual

theorem mapHeads_mapHeads (f g : ElementHead → ElementHead) (element : Element) :
    (element.mapHeads f).mapHeads g = element.mapHeads (g ∘ f) := by
  match element with
  | .node head children =>
    rw [mapHeads, mapHeads, mapHeadsAll_mapHeadsAll f g children, mapHeads, Function.comp]

theorem mapHeadsAll_mapHeadsAll (f g : ElementHead → ElementHead) (elements : List Element) :
    mapHeadsAll g (mapHeadsAll f elements) = mapHeadsAll (g ∘ f) elements := by
  match elements with
  | [] => rfl
  | element :: rest =>
    rw [mapHeadsAll, mapHeadsAll, mapHeads_mapHeads f g element, mapHeadsAll_mapHeadsAll f g rest,
      mapHeadsAll]

end

mutual

theorem prunedIds_of_shown {element : Element} (shown : ∀ h ∈ element.walk, h.hidden = false) :
    element.prunedIds = [] := by
  match element with
  | .node head children =>
    rw [prunedIds, prunedIdsAll_of_shown fun h mem => shown h (by simp [walk, mem])]

theorem prunedIdsAll_of_shown {elements : List Element}
    (shown : ∀ h ∈ walkAll elements, h.hidden = false) : prunedIdsAll elements = [] := by
  match elements with
  | [] => rfl
  | element :: rest =>
    have root : element.head.hidden = false := shown _ (by simp [walkAll, element.head_mem_walk])
    have first : element.prunedIds = [] :=
      prunedIds_of_shown fun h mem => shown h (by simp [walkAll, mem])
    have others : prunedIdsAll rest = [] :=
      prunedIdsAll_of_shown fun h mem => shown h (by simp [walkAll, mem])
    rw [prunedIdsAll, if_neg (by simp [root]), first, others, List.append_nil]

end

mutual

theorem walk_prune_subset (element : Element) : element.prune.walk ⊆ element.walk := by
  match element with
  | .node head children =>
    rw [prune, walk, walk]
    exact List.cons_subset_cons head (walkAll_pruneAll_subset children)

theorem walkAll_pruneAll_subset (elements : List Element) :
    walkAll (pruneAll elements) ⊆ walkAll elements := by
  match elements with
  | [] => exact List.Subset.refl _
  | element :: rest =>
    have first := walk_prune_subset element
    have others := walkAll_pruneAll_subset rest
    rw [pruneAll, walkAll]
    split
    · exact List.subset_append_of_subset_right _ others
    · rw [walkAll]
      exact List.append_subset.mpr ⟨List.subset_append_of_subset_left _ first,
        List.subset_append_of_subset_right _ others⟩

end

end Element

namespace DocumentTree

theorem mapHeads_congr {f g : ElementHead → ElementHead} {d : DocumentTree}
    (same : ∀ h ∈ d.walk, f h = g h) : d.mapHeads f = d.mapHeads g := by
  have header := Element.mapHeads_congr fun h mem => same h (d.walk_header_subset mem)
  have sections (t : SectionTree) (inside : t ∈ d.sections) :
      t.root.mapHeads f = t.root.mapHeads g :=
    Element.mapHeads_congr fun h mem => same h (walk_root_subset inside mem)
  rw [mapHeads, mapHeads, mapRoots, mapRoots, header]
  congr 1
  exact List.map_congr_left fun t inside => by rw [sections t inside]

theorem mapHeads_id (d : DocumentTree) : d.mapHeads id = d := by
  simp only [mapHeads, mapRoots, Element.mapHeads_id, List.map_id']

theorem prune_of_shown {d : DocumentTree} (shown : ∀ h ∈ d.walk, h.hidden = false) :
    d.prune = d := by
  have header := Element.prune_of_shown fun h mem => shown h (d.walk_header_subset mem)
  have kept : d.sections.filter (fun t => !t.root.head.hidden) = d.sections := by
    rw [List.filter_eq_self]
    intro t inside
    simp [shown _ (walk_root_subset inside t.root.head_mem_walk)]
  have sections : d.sections.map (fun t => { t with root := t.root.prune })
      = d.sections.map fun t => t := List.map_congr_left fun t inside => by
    rw [Element.prune_of_shown fun h mem => shown h (walk_root_subset inside mem)]
  rw [prune, header, kept, sections, List.map_id']

theorem prunedIds_of_shown {d : DocumentTree} (shown : ∀ h ∈ d.walk, h.hidden = false) :
    d.prunedIds = [] := by
  have header := Element.prunedIds_of_shown fun h mem => shown h (d.walk_header_subset mem)
  have sections : Element.prunedIdsAll (d.sections.map SectionTree.root) = [] :=
    Element.prunedIdsAll_of_shown fun h mem => shown h (by simp [walk, roots, Element.walkAll, mem])
  rw [prunedIds, header, sections, List.append_nil]

theorem walk_prune_subset (d : DocumentTree) : d.prune.walk ⊆ d.walk := by
  intro h mem
  obtain ⟨root, inside, mem⟩ := Element.exists_of_mem_walkAll mem
  simp only [roots, prune, List.map_map, List.mem_cons, List.mem_map, List.mem_filter] at inside
  rcases inside with rfl | ⟨t, ⟨among, -⟩, rfl⟩
  · exact d.walk_header_subset (Element.walk_prune_subset _ mem)
  · exact walk_root_subset among (Element.walk_prune_subset _ mem)

/-- Overrides written into a tree one after another. -/
def amendInTurn (entries : List ElementOverride) (d : DocumentTree) : DocumentTree :=
  entries.foldl (fun d o => d.mapHeads fun h => h.mark o) d

theorem amendInTurn_eq_mapHeads (entries : List ElementOverride) (d : DocumentTree) :
    d.amendInTurn entries = d.mapHeads fun h => entries.foldl (fun h o => h.mark o) h := by
  induction entries generalizing d with
  | nil => exact d.mapHeads_id.symm
  | cons o entries ih =>
    have rest := ih (d.mapHeads fun h => h.mark o)
    rw [amendInTurn, List.foldl_cons, ← amendInTurn, rest]
    simp [mapHeads, mapRoots, Element.mapHeads_mapHeads, Function.comp_def]

variable {s other : OverrideSet} {d : DocumentTree}

section

variable (unique : (Element.addresses d.roots).Nodup) (shown : ∀ h ∈ d.walk, h.hidden = false)

include unique shown

/-- Where ids are unique, a set of overrides does what its entries do in turn. -/
theorem amend_eq_amendInTurn (s : OverrideSet) : d.amend s = d.amendInTurn s.entries := by
  rw [amendInTurn_eq_mapHeads, amend_eq_mapHeads s unique shown]
  exact mapHeads_congr fun h mem => (ElementHead.foldl_mark_eq_revise s (shown h mem)).symm

theorem amend_of_isEmpty (none : s.isEmpty) : d.amend s = d := by
  have entries : s.entries = [] := by simpa [OverrideSet.isEmpty] using none
  rw [amend_eq_amendInTurn unique shown, entries]
  rfl

/-- An empty set does nothing that the long way would not do. -/
theorem override_eq_prune (s : OverrideSet) : d.override s = (d.amend s).prune := by
  unfold override
  split
  · next none => rw [amend_of_isEmpty unique shown none, prune_of_shown shown]
  · rfl

/-- What overrides leave of a tree are its elements, each as its own override revises it. -/
theorem exists_of_mem_walk_override {h : ElementHead} (mem : h ∈ (d.override s).walk) :
    ∃ own ∈ d.walk, h = s.revise own := by
  rw [override_eq_prune unique shown, amend_eq_mapHeads s unique shown] at mem
  have inside := walk_prune_subset _ mem
  rw [walk_mapHeads] at inside
  obtain ⟨own, among, rfl⟩ := List.mem_map.mp inside
  exact ⟨own, among, rfl⟩

theorem overrideReport_eq_report (s : OverrideSet) : d.overrideReport s = d.report s := by
  unfold overrideReport
  split
  · next none =>
    have entries : s.entries = [] := by simpa [OverrideSet.isEmpty] using none
    have pruned : d.prunedIds = [] := prunedIds_of_shown shown
    simp [report, idsWhere, textsOf, entries, amend_of_isEmpty unique shown none, pruned]
  · rfl

end

/-! What is reported -/

theorem idsWhere_perm (pick : ElementOverride → Option ElementHead → Bool)
    (perm : s.entries.Perm other.entries) (d : DocumentTree) :
    (idsWhere pick s d).Perm (idsWhere pick other d) :=
  (perm.filter _).map _

theorem isSome_lookUp_iff {id : ElementId} :
    (d.lookUp id).isSome ↔ id ∈ (Element.addresses d.roots).map ElementId.text := by
  have known (text : String) :
      (d.find? text).isSome ↔ text ∈ Element.addresses d.roots := by
    simp [find?, walk, Element.addresses]
  cases id <;> simp [lookUp, known]

/-- Nothing is told of what names no element but that it does not. -/
theorem idsWhere_within {pick : ElementOverride → Option ElementHead → Bool}
    (missing : ∀ o, pick o none = false) (s : OverrideSet) (d : DocumentTree) :
    idsWhere pick (s.within (Element.addresses d.roots)) d = idsWhere pick s d := by
  rw [idsWhere, OverrideSet.within, List.filter_filter, idsWhere]
  congr 1
  apply List.filter_congr
  intro o mem
  cases found : d.lookUp o.id with
  | none => simp [missing]
  | some h => simpa using fun _ => isSome_lookUp_iff.mp (by simp [found])

theorem stale_within (s : OverrideSet) (d : DocumentTree) :
    idsWhere (fun _ found => found.isNone) (s.within (Element.addresses d.roots)) d = [] := by
  rw [idsWhere, List.map_eq_nil_iff, List.filter_eq_nil_iff]
  intro o mem
  have found := isSome_lookUp_iff.mpr (OverrideSet.mem_within.mp mem).2
  simpa using Option.isSome_iff_ne_none.mp found

theorem report_of_perm (perm : s.entries.Perm other.entries) (d : DocumentTree) :
    (d.overrideReport s).SameUpToOrder (d.overrideReport other) := by
  have same := OverrideSet.agrees_of_perm perm
  unfold overrideReport
  rw [same.isEmpty_eq]
  split
  · exact ⟨rfl, .rfl, .rfl, .rfl⟩
  · exact ⟨by rw [report, report, amend_congr same], (idsWhere_perm _ perm d).filterMap _,
      (idsWhere_perm _ perm d).filterMap _, idsWhere_perm _ perm d⟩

/-! Overrides that name nothing -/

section

variable (unique : (Element.addresses d.roots).Nodup) (shown : ∀ h ∈ d.walk, h.hidden = false)

include unique shown

theorem amend_within {ids : List String} (inside : Element.addresses d.roots ⊆ ids)
    (s : OverrideSet) : d.amend (s.within ids) = d.amend s := by
  rw [amend_eq_mapHeads _ unique shown, amend_eq_mapHeads _ unique shown]
  apply mapHeads_congr
  intro h mem
  apply OverrideSet.revise_congr
  apply OverrideSet.for?_within
  exact fun id address => inside (List.mem_filterMap.mpr ⟨h, mem, address⟩)

theorem override_within {ids : List String} (inside : Element.addresses d.roots ⊆ ids)
    (s : OverrideSet) : d.override (s.within ids) = d.override s := by
  rw [override_eq_prune unique shown, override_eq_prune unique shown,
    amend_within unique shown inside]

theorem overrideReport_within (s : OverrideSet) :
    d.overrideReport (s.within (Element.addresses d.roots))
      = { d.overrideReport s with stale := [] } := by
  have applied : idsWhere (fun _ found => found.isSome) (s.within (Element.addresses d.roots)) d
      = idsWhere (fun _ found => found.isSome) s d := idsWhere_within (by simp) s d
  have ignored : idsWhere (fun o found => o.hidden && found.any (·.required))
      (s.within (Element.addresses d.roots)) d
      = idsWhere (fun o found => o.hidden && found.any (·.required)) s d :=
    idsWhere_within (by simp) s d
  rw [overrideReport_eq_report unique shown, overrideReport_eq_report unique shown, report,
    applied, ignored, stale_within, amend_within unique shown (List.Subset.refl _), report]

end

/-- What a content is known to have leaves no id twice. -/
theorem identify_of_knownIds {content : Content} {layout : LayoutTokens} {ids : List String}
    (known : knownIds content layout = .ok ids) :
    (assemble content layout).identify = .ok (identified content layout)
      ∧ (Element.addresses (identified content layout).roots).Nodup
      ∧ Element.addresses (identified content layout).roots ⊆ ids := by
  obtain ⟨tree, given, same⟩ := Checked.bind_eq_ok.mp known
  obtain rfl : (assemble content layout).pathIds = ids := Except.ok.inj same
  have distinct : (assemble content layout).pathIds.Nodup := by
    unfold identify at given
    split at given
    · simp at given
    · next none => exact (nodup_of_firstRepeated?_eq_none none).1
  have addresses := addresses_mapHeads (areFresh_assemble content layout)
  refine ⟨identify_of_nodup distinct, ?_, ?_⟩
  · rw [identified, addresses]
    exact distinct.filter _
  · rw [identified, addresses]
    exact List.filter_subset_self _

end DocumentTree

/-! Documents -/

theorem compiledTree_within {content : Content} {layout : LayoutTokens} {ids : List String}
    (known : knownIds content layout = .ok ids) {s : OverrideSet}
    (named : ∀ o ∈ s.entries, o.id.isText) :
    compiledTree content layout (s.within ids) = compiledTree content layout s := by
  obtain ⟨identify, unique, inside⟩ := DocumentTree.identify_of_knownIds known
  have same := DocumentTree.override_within unique
    (DocumentTree.shown_identified content layout) inside s
  rw [compiledTree_eq_ok_iff.mpr ⟨named, _, identify, rfl⟩,
    compiledTree_eq_ok_iff.mpr ⟨s.isText_within ids, _, identify, same.symm⟩]

theorem compile_within {content : Content} {tokens : StyleTokens} {ids : List String}
    (known : knownIds content tokens.layout = .ok ids) {s : OverrideSet}
    (named : ∀ o ∈ s.entries, o.id.isText) (options : RenderOptions) :
    compile content (.ok tokens) (s.within ids) options
      = compile content (.ok tokens) s options := by
  simp only [compile, compileWith, Checked.ok_bind, compiledTree_within known named]

/-- Order and stale entries do not matter. Sets with the same entries leave the same of every tree,
what each entry does in turn, report the same but for the order, fail alike and make the same
documents. Where all ids are texts, the entries that name no element only add themselves to what is
reported; where one is not, nothing comes of the set, and leaving out what names no element makes up
for that. -/
theorem order_and_stale_entries_do_not_matter (s : OverrideSet) :
    (∀ other : OverrideSet, s.entries.Perm other.entries →
      (∀ d : DocumentTree,
        (∀ fault, d.applyOverrides s = .error fault → d.applyOverrides other = .error fault)
        ∧ ∀ after report, d.applyOverrides s = .ok (after, report) →
          (∃ report', d.applyOverrides other = .ok (after, report')
            ∧ report.SameUpToOrder report')
          ∧ ((Element.addresses d.roots).Nodup → (∀ h ∈ d.walk, h.hidden = false) →
            after = (d.amendInTurn other.entries).prune))
      ∧ ∀ content style options,
        compile content style s options = compile content style other options)
    ∧ (∀ d : DocumentTree, (Element.addresses d.roots).Nodup → (∀ h ∈ d.walk, h.hidden = false) →
      ((∀ o ∈ s.entries, o.id.isText) → ∃ after report, d.applyOverrides s = .ok (after, report)
        ∧ d.applyOverrides (s.within (Element.addresses d.roots))
          = .ok (after, { report with stale := [] }))
      ∧ ((∃ o ∈ s.entries, o.id.isText = false) →
        d.applyOverrides s = .error (.misuse .wrongType)
          ∧ ∃ after report, d.applyOverrides (s.within (Element.addresses d.roots))
            = .ok (after, report)))
    ∧ ∀ (content : Content) (tokens : StyleTokens) (ids : List String),
      knownIds content tokens.layout = .ok ids → (∀ o ∈ s.entries, o.id.isText) →
        compiledTree content tokens.layout (s.within ids) = compiledTree content tokens.layout s
          ∧ ∀ options, compile content (.ok tokens) (s.within ids) options
            = compile content (.ok tokens) s options := by
  refine ⟨fun other perm => ?_, fun d unique shown => ⟨fun named => ?_, ?_⟩,
    fun content tokens ids known named =>
      ⟨compiledTree_within known named, compile_within known named⟩⟩
  · have same := OverrideSet.agrees_of_perm perm
    refine ⟨fun d => ⟨fun fault failed => ?_, fun after report applied => ?_⟩, compile_congr same⟩
    · rw [DocumentTree.applyOverrides_eq, same.all_isText] at failed
      rw [DocumentTree.applyOverrides_eq]
      split at failed
      · cases failed
      · next unnamed => rwa [if_neg unnamed]
    · obtain ⟨named, rfl, rfl⟩ := DocumentTree.eq_of_applyOverrides applied
      have named' : ∀ o ∈ other.entries, o.id.isText := fun o mem =>
        named o (perm.mem_iff.mpr mem)
      rw [DocumentTree.override_congr same]
      refine ⟨⟨_, DocumentTree.applyOverrides_of_isText named' d,
        DocumentTree.report_of_perm perm d⟩, fun unique shown => ?_⟩
      rw [DocumentTree.override_eq_prune unique shown,
        DocumentTree.amend_eq_amendInTurn unique shown]
  · refine ⟨_, _, DocumentTree.applyOverrides_of_isText named d, ?_⟩
    rw [DocumentTree.applyOverrides_of_isText (s.isText_within _),
      DocumentTree.override_within unique shown (List.Subset.refl _),
      DocumentTree.overrideReport_within unique shown]
  · rintro ⟨o, mem, unnamed⟩
    exact ⟨DocumentTree.applyOverrides_of_not_isText mem unnamed d, _, _,
      DocumentTree.applyOverrides_of_isText (s.isText_within _) d⟩

/-- Two elements to change, and one that is not there. -/
def mixedOverrides : List ElementOverride :=
  [⟨.string "header-headline", .headerField, true, none, none⟩,
    ⟨.string "summary", .field, true, none, none⟩,
    ⟨.string "header", .header, true, some (.rgb 0x80 0 0), none⟩]

theorem order_and_stale_entries_do_not_matter_mixed :
    ∃ content tokens ids, ∃ s other : OverrideSet, Content.ofJson adaJson = .ok content
      ∧ StyleTokens.ofJson (.object []) = .ok tokens ∧ knownIds content tokens.layout = .ok ids
      ∧ s.entries = mixedOverrides ∧ other.entries = mixedOverrides.reverse
      ∧ compile content (.ok tokens) s {} = compile content (.ok tokens) other {}
      ∧ compile content (.ok tokens) (s.within ids) {} = compile content (.ok tokens) s {}
      ∧ ∃ after report, headlineTree.applyOverrides s = .ok (after, report)
        ∧ after = (headlineTree.amendInTurn mixedOverrides.reverse).prune
        ∧ report.stale = [.text "summary"]
        ∧ headlineTree.applyOverrides (s.within (Element.addresses headlineTree.roots))
          = .ok (after, { report with stale := [] }) := by
  have readable : (Content.ofJson adaJson).isOk := by decide +kernel
  have resolvable : (StyleTokens.ofJson (.object [])).isOk := by decide +kernel
  obtain ⟨content, read⟩ := Checked.exists_of_isOk readable
  obtain ⟨tokens, resolved⟩ := Checked.exists_of_isOk resolvable
  have known := knownIds_eq read resolved
  let s : OverrideSet := .ofList mixedOverrides .epoch
  let other : OverrideSet := .ofList mixedOverrides.reverse .epoch
  have entries : s.entries = mixedOverrides := rfl
  have reversed : other.entries = mixedOverrides.reverse := rfl
  have perm : s.entries.Perm other.entries := (List.reverse_perm mixedOverrides).symm
  have named : ∀ o ∈ s.entries, o.id.isText := by decide
  have unique : (Element.addresses headlineTree.roots).Nodup := by decide
  have shown : ∀ h ∈ headlineTree.walk, h.hidden = false := by decide
  obtain ⟨order, strangers, dropped⟩ := order_and_stale_entries_do_not_matter s
  obtain ⟨trees, documents⟩ := order other perm
  obtain ⟨after, report, applied, shorter⟩ := (strangers headlineTree unique shown).1 named
  obtain ⟨-, inTurn⟩ := (trees headlineTree).2 after report applied
  obtain ⟨-, -, told⟩ := DocumentTree.eq_of_applyOverrides applied
  have stale : report.stale = [.text "summary"] := by
    rw [told]
    decide
  exact ⟨content, tokens, _, s, other, read, resolved, known, entries, reversed,
    documents content (.ok tokens) {}, (dropped content tokens _ known named).2 {}, after, report,
    applied, inTurn unique shown, stale, shorter⟩

/-- An override of an element that is a number is stale like any other that names no element, but
without it there is a document. -/
theorem dropping_a_number_matters :
    ∃ content tokens ids overrides, Content.ofJson adaJson = .ok content
      ∧ StyleTokens.ofJson (.object []) = .ok tokens ∧ knownIds content tokens.layout = .ok ids
      ∧ OverrideSet.ofJson numberedJson = .ok overrides
      ∧ compile content (.ok tokens) (overrides.within ids) {}
        ≠ compile content (.ok tokens) overrides {} := by
  have readable : (Content.ofJson adaJson).isOk := by decide +kernel
  have resolvable : (StyleTokens.ofJson (.object [])).isOk := by decide +kernel
  have accepted : (OverrideSet.ofJson numberedJson).isOk := by decide +kernel
  obtain ⟨content, read⟩ := Checked.exists_of_isOk readable
  obtain ⟨tokens, resolved⟩ := Checked.exists_of_isOk resolvable
  obtain ⟨overrides, stored⟩ := Checked.exists_of_isOk accepted
  have some := isBlankText_fullName_ada read
  obtain ⟨o, mem, unnamed⟩ := exists_not_isText_numbered stored
  have fault := compile_of_not_isText read some resolved mem unnamed {}
  have known := knownIds_eq read resolved
  refine ⟨content, tokens, _, overrides, read, resolved, known, stored, ?_⟩
  obtain ⟨tree, built⟩ := exists_compiledTree read resolved
    (overrides.isText_within _)
  obtain ⟨layer, mode⟩ := @ModeLayer.exists_of_settled {} (by decide) (by decide)
  rw [compile_of_compiledTree some rfl built mode, ← resolved, fault]
  simp

end Vitae
