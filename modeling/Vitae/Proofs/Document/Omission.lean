import Vitae.Proofs.Document.Addressing
import Vitae.Proofs.Document.Outcome

/-!
Leaving out a section. A document in which a section is hidden is the one of the content that never
had that section, whatever else is overridden.
-/

namespace Vitae

open Assembly (hasContent sectionChildren sectionElement)

/-! Contents without a section -/

namespace Content

/-- A content with nothing left to show in a section. -/
def without (content : Content) : SectionKind → Content
  | .summary => { content with summary := none }
  | .experience => { content with experience := [] }
  | .education => { content with education := [] }
  | .skills => { content with skills := {} }
  | .languages => { content with languages := [] }
  | .certifications => { content with certifications := [] }

variable (content : Content) (kind : SectionKind)

@[simp] theorem fullName_without : (content.without kind).fullName = content.fullName := by
  cases kind <;> rfl

@[simp] theorem header_without (layout : LayoutTokens) :
    Assembly.header (content.without kind) layout = Assembly.header content layout := by
  cases kind <;> rfl

theorem hasContent_without (other : SectionKind) :
    hasContent (content.without kind) other = (other ≠ kind && hasContent content other) := by
  cases kind <;> cases other <;> rfl

variable {kind}

theorem sectionChildren_without {other : SectionKind} (differs : other ≠ kind)
    (layout : LayoutTokens) :
    sectionChildren (content.without kind) layout other = sectionChildren content layout other := by
  cases kind <;> cases other <;> first | rfl | exact absurd rfl differs

end Content

namespace DocumentTree

/-- A tree with only some of its sections. -/
def keepSections (keep : SectionKind → Bool) (d : DocumentTree) : DocumentTree :=
  { d with sections := d.sections.filter fun t => keep t.kind }

/-- What is not there to be shown is not assembled. -/
theorem assemble_without (content : Content) (layout : LayoutTokens) (kind : SectionKind) :
    assemble (content.without kind) layout = (assemble content layout).keepSections (· ≠ kind) := by
  have kinds : layout.sectionOrder.filter (hasContent (content.without kind))
      = (layout.sectionOrder.filter (hasContent content)).filter (· ≠ kind) := by
    rw [List.filter_filter]
    exact List.filter_congr fun other _ => content.hasContent_without kind other
  have sections : Assembly.sections (content.without kind) layout
      = (Assembly.sections content layout).filter fun t => t.kind ≠ kind := by
    rw [Assembly.sections, kinds, Assembly.sections, List.filter_map]
    apply List.map_congr_left
    intro other mem
    have differs : other ≠ kind := by simpa using (List.mem_filter.mp mem).2
    rw [content.sectionChildren_without differs]
  rw [assemble, sections, content.header_without]
  rfl

theorem keepSections_mapHeads (keep : SectionKind → Bool) (f : ElementHead → ElementHead)
    (d : DocumentTree) : (d.mapHeads f).keepSections keep = (d.keepSections keep).mapHeads f := by
  simp [keepSections, mapHeads, mapRoots, List.filter_map, Function.comp_def]

end DocumentTree

/-! Overrides on a tree in which nothing is hidden -/

namespace Element

mutual

theorem mapHeads_congr {f g : ElementHead → ElementHead} {element : Element}
    (same : ∀ h ∈ element.walk, f h = g h) : element.mapHeads f = element.mapHeads g := by
  match element with
  | .node head children =>
    have inner : mapHeadsAll f children = mapHeadsAll g children :=
      mapHeadsAll_congr fun h mem => same h (by simp [walk, mem])
    rw [mapHeads, mapHeads, same head (by simp [walk]), inner]

theorem mapHeadsAll_congr {f g : ElementHead → ElementHead} {elements : List Element}
    (same : ∀ h ∈ walkAll elements, f h = g h) :
    mapHeadsAll f elements = mapHeadsAll g elements := by
  match elements with
  | [] => rfl
  | element :: rest =>
    have first : element.mapHeads f = element.mapHeads g :=
      mapHeads_congr fun h mem => same h (by simp [walkAll, mem])
    have others : mapHeadsAll f rest = mapHeadsAll g rest :=
      mapHeadsAll_congr fun h mem => same h (by simp [walkAll, mem])
    rw [mapHeadsAll, mapHeadsAll, first, others]

end

mutual

theorem mapHeads_id (element : Element) : element.mapHeads id = element := by
  match element with
  | .node head children => rw [mapHeads, mapHeadsAll_id children, id]

theorem mapHeadsAll_id (elements : List Element) : mapHeadsAll id elements = elements := by
  match elements with
  | [] => rfl
  | element :: rest => rw [mapHeadsAll, mapHeads_id element, mapHeadsAll_id rest]

end

mutual

/-- Nothing is taken out where nothing is hidden. -/
theorem prune_of_shown {element : Element} (shown : ∀ h ∈ element.walk, h.hidden = false) :
    element.prune = element := by
  match element with
  | .node head children =>
    rw [prune, pruneAll_of_shown fun h mem => shown h (by simp [walk, mem])]

theorem pruneAll_of_shown {elements : List Element}
    (shown : ∀ h ∈ walkAll elements, h.hidden = false) : pruneAll elements = elements := by
  match elements with
  | [] => rfl
  | element :: rest =>
    have root : element.head.hidden = false :=
      shown _ (by simp [walkAll, element.head_mem_walk])
    have first : element.prune = element :=
      prune_of_shown fun h mem => shown h (by simp [walkAll, mem])
    have others : pruneAll rest = rest :=
      pruneAll_of_shown fun h mem => shown h (by simp [walkAll, mem])
    rw [pruneAll, if_neg (by simp [root]), first, others]

end

end Element

namespace OverrideSet

theorem for?_of_isEmpty {s : OverrideSet} (none : s.isEmpty) (h : ElementHead) :
    s.for? h = Option.none := by
  have entries : s.entries = [] := by simpa [isEmpty] using none
  simp [for?, get?, entries, Keyed.find?]

/-- An element is revised by nothing but its own override. -/
theorem revise_congr {s other : OverrideSet} {h : ElementHead} (same : s.for? h = other.for? h) :
    s.revise h = other.revise h := by
  simp only [revise, hides, same]

theorem revise_of_isEmpty {s : OverrideSet} (none : s.isEmpty) {h : ElementHead}
    (shown : h.hidden = false) : s.revise h = h := by
  have own := for?_of_isEmpty none h
  have same : { h with hidden := false } = h := by rw [← shown]
  simpa [revise, hides, own, paint] using same

end OverrideSet

namespace DocumentTree

/-- What overrides leave of a tree, each element taken on its own. -/
def revised (s : OverrideSet) (d : DocumentTree) : DocumentTree :=
  { header := (d.header.mapHeads s.revise).prune
    sections := (d.sections.filter fun t => !s.hides t.root.head).map
      fun t => { t with root := (t.root.mapHeads s.revise).prune } }

variable {s other : OverrideSet} {d : DocumentTree}

theorem walk_header_subset (d : DocumentTree) : d.header.walk ⊆ d.walk :=
  Element.walk_subset_walkAll List.mem_cons_self

theorem walk_root_subset {t : SectionTree} (mem : t ∈ d.sections) : t.root.walk ⊆ d.walk :=
  Element.walk_subset_walkAll (List.mem_cons_of_mem _ (List.mem_map_of_mem mem))

/-- Where ids are unique and nothing is hidden yet, every element is taken on its own, by an empty
set as well. -/
theorem override_eq_revised (s : OverrideSet) (unique : (Element.addresses d.roots).Nodup)
    (shown : ∀ h ∈ d.walk, h.hidden = false) : d.override s = d.revised s := by
  cases none : s.isEmpty with
  | false =>
    have header := header_override s unique shown none
    have sections := sections_override s unique shown none
    rw [revised, ← header, ← sections]
  | true =>
    have unchanged {element : Element} (inside : element.walk ⊆ d.walk) :
        (element.mapHeads s.revise).prune = element := by
      have same : element.mapHeads s.revise = element.mapHeads id := Element.mapHeads_congr
        fun h mem => OverrideSet.revise_of_isEmpty none (shown h (inside mem))
      rw [same, Element.mapHeads_id, Element.prune_of_shown fun h mem => shown h (inside mem)]
    have kept : d.sections.filter (fun t => !s.hides t.root.head) = d.sections := by
      simp [OverrideSet.hides, OverrideSet.for?_of_isEmpty none]
    have sections : d.sections.map (fun t => { t with root := (t.root.mapHeads s.revise).prune })
        = d.sections := by
      conv_rhs => rw [← List.map_id d.sections]
      apply List.map_congr_left
      intro t mem
      rw [unchanged (walk_root_subset mem), id]
    rw [override, if_pos none, revised, unchanged d.walk_header_subset, kept, sections]

/-- Hiding sections comes to the same as not having them, if nothing else is treated differently. -/
theorem revised_keepSections {keep : SectionKind → Bool}
    (same : ∀ h ∈ (d.keepSections keep).walk, other.for? h = s.for? h)
    (hidden : ∀ t ∈ d.sections, keep t.kind = false → other.hides t.root.head) :
    d.revised other = (d.keepSections keep).revised s := by
  have alike {element : Element} (inside : element.walk ⊆ (d.keepSections keep).walk) :
      element.mapHeads other.revise = element.mapHeads s.revise :=
    Element.mapHeads_congr fun h mem => OverrideSet.revise_congr (same h (inside mem))
  have inside {t : SectionTree} (mem : t ∈ d.sections) (kept : keep t.kind = true) :
      t.root.walk ⊆ (d.keepSections keep).walk :=
    walk_root_subset (d := d.keepSections keep) (List.mem_filter.mpr ⟨mem, kept⟩)
  have kept : d.sections.filter (fun t => !other.hides t.root.head)
      = (d.keepSections keep).sections.filter fun t => !s.hides t.root.head := by
    rw [keepSections, List.filter_filter]
    apply List.filter_congr
    intro t mem
    cases known : keep t.kind with
    | false => simp [hidden t mem known]
    | true =>
      have root := same _ (inside mem known t.root.head_mem_walk)
      simp [OverrideSet.hides, root]
  have header := alike (d.keepSections keep).walk_header_subset
  have sections : ∀ t ∈ (d.keepSections keep).sections.filter fun t => !s.hides t.root.head,
      t.root.mapHeads other.revise = t.root.mapHeads s.revise :=
    fun t mem => alike (walk_root_subset (List.mem_filter.mp mem).1)
  rw [revised, kept, revised]
  congr 1
  · exact congrArg Element.prune header
  · apply List.map_congr_left
    intro t mem
    rw [sections t mem]

end DocumentTree

/-! Assembled trees -/

theorem Content.IsTidy.without {content : Content} (tidy : content.IsTidy) (kind : SectionKind) :
    (content.without kind).IsTidy where
  headline := by cases kind <;> exact tidy.headline
  summary := by cases kind <;> first | exact tidy.summary | simp [Content.without]
  highlights := by cases kind <;> first | exact tidy.highlights | simp [Content.without]
  locations := by cases kind <;> first | exact tidy.locations | simp [Content.without]
  details := by cases kind <;> first | exact tidy.details | simp [Content.without]
  certifications := by cases kind <;> first | exact tidy.certifications | simp [Content.without]
  contact := by cases kind <;> exact tidy.contact
  avatar := by cases kind <;> exact tidy.avatar

/-- A section that is left out leaves no element with its path. -/
theorem not_catalogued_without (content : Content) (layout : LayoutTokens) (kind : SectionKind) :
    ¬ Catalogued (content.without kind) layout ["section", kind.word] := by
  intro known
  generalize path : ["section", kind.word] = given at known
  cases known with
  | header rest inside => simp at path
  | root other some =>
    obtain rfl : kind = other := Assembly.word_injective (by simpa using path)
    simp [content.hasContent_without] at some
  | title other some => simp at path
  | item other rest inside =>
    have apart : other.word ≠ "section" := by cases other <;> decide
    simp only [List.cons.injEq] at path
    exact apart path.1.symm

namespace SectionKind

/-- The id of a section. -/
def id (kind : SectionKind) : String := "section-" ++ kind.word

theorem ofPath_word (kind : SectionKind) :
    ElementId.ofPath ["section", kind.word] = kind.id := by
  cases kind <;> decide

theorem isPlain_word (kind : SectionKind) : ElementId.IsPlain ["section", kind.word] :=
  ⟨by simp, Catalogue.arePlain_cons (Catalogue.arePlain_of_all (by decide))
    (Catalogue.arePlain_kind kind)⟩

end SectionKind

namespace DocumentTree

/-- An assembled tree whose elements have their ids. -/
def identified (content : Content) (layout : LayoutTokens) : DocumentTree :=
  (assemble content layout).mapHeads ElementHead.withPathId

variable {content : Content} {layout : LayoutTokens}

theorem shown_identified (content : Content) (layout : LayoutTokens) :
    ∀ h ∈ (identified content layout).walk, h.hidden = false :=
  shown_mapHeads (areFresh_assemble content layout)

theorem identified_without (content : Content) (layout : LayoutTokens) (kind : SectionKind) :
    identified (content.without kind) layout
      = (identified content layout).keepSections (· ≠ kind) := by
  rw [identified, assemble_without, ← keepSections_mapHeads]
  rfl

section

variable (tidy : content.IsTidy) (distinct : layout.sectionOrder.Nodup)
  (complete : ∀ kind, kind ∈ layout.sectionOrder)

include tidy distinct complete

theorem identify_assemble_of_isTidy :
    (assemble content layout).identify = .ok (identified content layout) :=
  identify_of_nodup (nodup_pathIds_assemble tidy distinct complete)

theorem override_identified (s : OverrideSet) :
    (identified content layout).override s = (identified content layout).revised s := by
  apply override_eq_revised s ?_ (shown_identified content layout)
  rw [identified, addresses_mapHeads (areFresh_assemble content layout)]
  exact (nodup_pathIds_assemble tidy distinct complete).filter _

end

/-- Without a section, no element has its id. -/
theorem address?_ne_of_mem_without (tidy : content.IsTidy)
    (complete : ∀ kind, kind ∈ layout.sectionOrder) {kind : SectionKind} {h : ElementHead}
    (mem : h ∈ (identified (content.without kind) layout).walk) : h.address? ≠ some kind.id := by
  rw [identified, walk_mapHeads] at mem
  obtain ⟨own, inside, rfl⟩ := List.mem_map.mp mem
  have known {path : List String} (given : own.path = some path) :
      Catalogued (content.without kind) layout path :=
    (mem_paths_assemble (tidy.without kind) complete).mp
      (List.mem_filterMap.mpr ⟨own, inside, given⟩)
  intro address
  rw [← kind.ofPath_word] at address
  have path := (areFresh_assemble _ layout own inside).path_of_address?
    (fun path given => (known given).isPlain) kind.isPlain_word address
  exact not_catalogued_without content layout kind (known path)

/-- The root of a section has its id and can be hidden. -/
theorem head_of_mem_identified {t : SectionTree} (mem : t ∈ (identified content layout).sections) :
    t.root.head.address? = some t.kind.id ∧ t.root.head.required = false := by
  simp only [identified, mapHeads, mapRoots, assemble, Assembly.sections, List.map_map,
    List.mem_map] at mem
  obtain ⟨kind, -, rfl⟩ := mem
  have some : kind.id.isEmpty = false := by cases kind <;> decide
  have id : ((sectionElement kind (sectionChildren content layout kind)).mapHeads
      ElementHead.withPathId).head.id = Option.some kind.id :=
    congrArg Option.some kind.ofPath_word
  refine ⟨?_, rfl⟩
  simp [ElementHead.address?, id, some]

variable {overrides : OverrideSet} {o : ElementOverride} {kind : SectionKind}

/-- Overrides that hide a section leave the same as without it. -/
theorem override_insert_hidden (tidy : content.IsTidy) (distinct : layout.sectionOrder.Nodup)
    (complete : ∀ kind, kind ∈ layout.sectionOrder) (names : o.id = .text kind.id)
    (hidden : o.hidden) (time : Time.Instant) :
    (identified content layout).override (overrides.insert o time)
      = (identified (content.without kind) layout).override overrides := by
  rw [override_identified tidy distinct complete,
    override_identified (tidy.without kind) distinct complete, identified_without]
  apply revised_keepSections
  · intro h mem
    rw [← identified_without] at mem
    have apart := address?_ne_of_mem_without tidy complete mem
    unfold OverrideSet.for?
    cases address : h.address? with
    | none => rfl
    | some id =>
      have differs : kind.id ≠ id := by
        rintro rfl
        exact apart address
      simp [OverrideSet.get?_insert, names, differs]
  · intro t mem gone
    obtain ⟨address, required⟩ := head_of_mem_identified mem
    have same : t.kind = kind := by simpa using gone
    simp [OverrideSet.hides, OverrideSet.for?, address, required, same, OverrideSet.get?_insert,
      names, hidden]

/-- What overrides leave of the sections is in the columns that the layout gives them. -/
theorem column_of_mem_revised {s : OverrideSet} {t : SectionTree}
    (mem : t ∈ ((identified content layout).revised s).sections) :
    hasContent content t.kind ∧ t.column = Assembly.columnOf layout t.kind := by
  simp only [revised, identified, mapHeads, mapRoots, assemble, Assembly.sections, List.mem_map,
    List.mem_filter] at mem
  obtain ⟨_, ⟨⟨_, ⟨kind, ⟨-, some⟩, rfl⟩, rfl⟩, -⟩, rfl⟩ := mem
  exact ⟨some, rfl⟩

/-- Without anything to show in it, there is no sidebar. -/
theorem columnHtml_sidebar_eq_nil {s : OverrideSet}
    (none : ∀ kind, Assembly.isSidebarKind kind → hasContent content kind = false) :
    ((identified content layout).revised s).columnHtml .sidebar = [] := by
  rw [columnHtml, List.map_eq_nil_iff, List.filter_eq_nil_iff]
  intro t mem
  obtain ⟨some, column⟩ := column_of_mem_revised mem
  have main : Assembly.isSidebarKind t.kind = false := by
    rw [Bool.eq_false_iff]
    exact fun sidebar => absurd some (by simp [none t.kind sidebar])
  simp [column, Assembly.columnOf, main]

end DocumentTree

/-! Documents -/

theorem OverrideSet.isText_insert {s : OverrideSet} {o : ElementOverride}
    (named : ∀ o ∈ s.entries, o.id.isText) (text : o.id.isText) (time : Time.Instant) :
    ∀ other ∈ (s.insert o time).entries, other.id.isText := by
  intro other mem
  rcases Keyed.eq_or_mem_of_mem_upsert mem with rfl | mem
  · exact text
  · exact named other mem

/-- The tree of a content with a hidden section, and of the content without it. -/
theorem compiledTree_insert_hidden {content : Content} {layout : LayoutTokens}
    (tidy : content.IsTidy) (distinct : layout.sectionOrder.Nodup)
    (complete : ∀ kind, kind ∈ layout.sectionOrder) {overrides : OverrideSet}
    (named : ∀ o ∈ overrides.entries, o.id.isText) {kind : SectionKind} {o : ElementOverride}
    (names : o.id = .text kind.id) (hidden : o.hidden) (time : Time.Instant) :
    ∃ tree, compiledTree content layout (overrides.insert o time) = .ok tree
      ∧ compiledTree (content.without kind) layout overrides = .ok tree
      ∧ tree = (DocumentTree.identified (content.without kind) layout).revised overrides := by
  have identify := DocumentTree.identify_assemble_of_isTidy tidy distinct complete
  have identify' :=
    DocumentTree.identify_assemble_of_isTidy (tidy.without kind) distinct complete
  have named' := OverrideSet.isText_insert named (by rw [names]; rfl) time
  have revised := DocumentTree.override_identified (tidy.without kind) distinct complete overrides
  have same : (DocumentTree.identified content layout).override (overrides.insert o time)
      = (DocumentTree.identified (content.without kind) layout).override overrides :=
    DocumentTree.override_insert_hidden tidy distinct complete names hidden time
  exact ⟨_, compiledTree_eq_ok_iff.mpr ⟨named', _, identify, (same.trans revised).symm⟩,
    compiledTree_eq_ok_iff.mpr ⟨named, _, identify', revised.symm⟩, rfl⟩

open Page (box) in
/-- Hiding a section is not having its content. Whatever else the overrides do, inside the section
as well, the document is the one of the content without it, in every mode; and if nothing else is
there for the sidebar, the page has none. -/
theorem compile_hidden_section {value style : Json} {content : Content} {overrides : OverrideSet}
    {options : RenderOptions} {document : String} (read : Content.ofJson value = .ok content)
    (compiled : compile content (StyleTokens.ofJson style) overrides options = .ok document)
    (kind : SectionKind) {o : ElementOverride} (names : o.id = .text kind.id) (hidden : o.hidden)
    (time : Time.Instant) :
    ∃ page : Page,
      compile content (StyleTokens.ofJson style) (overrides.insert o time) options = .ok page.text
        ∧ compile (content.without kind) (StyleTokens.ofJson style) overrides options
          = .ok page.text
        ∧ ((∀ other, Assembly.isSidebarKind other → hasContent content other → other = kind) →
          page.columns = box ("cv-body layout-" ++ page.layout) [box "cv-main" page.main]) := by
  have some := isBlankText_of_compile compiled
  obtain ⟨tokens, full, layer, resolved, whole, mode, -⟩ := exists_page_of_compile compiled
  obtain ⟨texts, -⟩ := compiledTree_eq_ok_iff.mp whole
  obtain ⟨distinct, complete⟩ := StyleTokens.sectionOrder_complete resolved
  obtain ⟨tree, built, shorter, rfl⟩ := compiledTree_insert_hidden (Content.isTidy_ofJson read)
    distinct complete texts names hidden time
  have named : Text.isBlankText (content.without kind).fullName = false := by
    rw [content.fullName_without, some]
  have title : pageTitle (content.without kind) = pageTitle content := by
    rw [pageTitle, content.fullName_without, pageTitle]
  refine ⟨_, compile_of_compiledTree some resolved built mode, ?_, fun only => ?_⟩
  · rw [compile_of_compiledTree named resolved shorter mode, title]
  · have none (other : SectionKind) (sidebar : Assembly.isSidebarKind other) :
        hasContent (content.without kind) other = false := by
      rw [content.hasContent_without]
      by_cases same : other = kind
      · simp [same]
      · simpa [same] using fun some => same (only other sidebar some)
    simp [Page.columns, DocumentTree.page, DocumentTree.columnHtml_sidebar_eq_nil none,
      Page.onlyIf]

/-- One skill, which is all there is for a sidebar. -/
def skilledJson : Json :=
  .object [("fullName", .string "Ada"), ("summary", .string "Builder"),
    ("skills", .object [("technical", .list [.string "Lean"])])]

def sidebarStyle : Json := .object [("layout", .string "sidebar-left")]

/-- A colour for the skill. -/
def skillColoured : OverrideSet :=
  .ofList [⟨.string "skills-technical-0", .skillTag, false, some (.rgb 0 0 0x80), none⟩] .epoch

def skillsHidden : ElementOverride := ⟨.string "section-skills", .sectionBlock, true, none, none⟩

theorem compile_hidden_section_skills :
    ∃ content document, ∃ page : Page, Content.ofJson skilledJson = .ok content
      ∧ compile content (StyleTokens.ofJson sidebarStyle) skillColoured {} = .ok document
      ∧ compile content (StyleTokens.ofJson sidebarStyle) (skillColoured.insert skillsHidden .epoch)
        {} = .ok page.text
      ∧ compile (content.without .skills) (StyleTokens.ofJson sidebarStyle) skillColoured {}
        = .ok page.text
      ∧ page.columns
        = Page.box ("cv-body layout-" ++ page.layout) [Page.box "cv-main" page.main] := by
  have readable : (Content.ofJson skilledJson).isOk := by decide +kernel
  obtain ⟨content, read⟩ := Checked.exists_of_isOk readable
  have compilable : (Content.ofJson skilledJson >>= fun content =>
      compile content (StyleTokens.ofJson sidebarStyle) skillColoured {}).isOk := by decide +kernel
  rw [Checked.bind_of_ok read] at compilable
  obtain ⟨document, compiled⟩ := Checked.exists_of_isOk compilable
  have shown : (Content.ofJson skilledJson).map (fun content => SectionKind.all.filter fun kind =>
      Assembly.isSidebarKind kind && hasContent content kind) = .ok [.skills] := by decide +kernel
  rw [read] at shown
  replace shown := Except.ok.inj shown
  have only (other : SectionKind) (sidebar : Assembly.isSidebarKind other)
      (some : hasContent content other) : other = .skills := by
    have known : other ∈ SectionKind.all := by cases other <;> decide
    have mem : other ∈ [SectionKind.skills] :=
      shown ▸ List.mem_filter.mpr ⟨known, Bool.and_eq_true_iff.mpr ⟨sidebar, some⟩⟩
    exact List.mem_singleton.mp mem
  obtain ⟨page, hidden, without, columns⟩ :=
    compile_hidden_section read compiled .skills (o := skillsHidden) (by decide) rfl .epoch
  exact ⟨content, document, page, read, compiled, hidden, without, columns only⟩

end Vitae
