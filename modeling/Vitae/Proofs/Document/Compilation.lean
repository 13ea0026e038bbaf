import Vitae.Document.Compilation
import Vitae.Proofs.Decoration
import Vitae.Proofs.Document.Amendment
import Vitae.Proofs.Document.Page
import Vitae.Proofs.Document.Script
import Vitae.Proofs.Document.View
import Vitae.Proofs.Style.Sheet

/-!
Parsing undoes compiling. Ids and overrides leave an assembled tree one that can be read back, so
the document is read as the page around exactly that tree.
-/

namespace Vitae

open Element (AreWritable)
open Html (Writable)
open Page (box onLines onlyIf lineEnd)

/-! Ids and overrides -/

namespace ElementHead

/-- Heads that differ at most in what identifies them, in their style and in being hidden. -/
structure IsAlike (h other : ElementHead) : Prop where
  tag : other.tag = h.tag
  classes : other.classes = h.classes
  attributes : other.attributes = h.attributes
  text : other.text = h.text

theorem IsAlike.isVoid {h other : ElementHead} (alike : h.IsAlike other) :
    other.isVoid = h.isVoid := by
  rw [ElementHead.isVoid, ElementHead.isVoid, alike.tag]

theorem IsAlike.isWritable {h other : ElementHead} (alike : h.IsAlike other)
    (writable : h.IsWritable) : other.IsWritable where
  tag := by
    rw [alike.isVoid, alike.tag]
    exact writable.tag
  classes := by
    rw [alike.classes]
    exact writable.classes
  own := by
    rw [alike.attributes, alike.tag]
    exact writable.own
  distinct := by
    rw [alike.attributes]
    exact writable.distinct

theorem isAlike_withPathId (h : ElementHead) : h.IsAlike h.withPathId := ⟨rfl, rfl, rfl, rfl⟩

theorem isAlike_amendFrom (s : OverrideSet) (later : List String) (h : ElementHead) :
    h.IsAlike (h.amendFrom s later) := by
  have rest := amendFrom_rest s later h
  have tag := congrArg ElementHead.tag rest
  have classes := congrArg ElementHead.classes rest
  have attributes := congrArg ElementHead.attributes rest
  have text := congrArg ElementHead.text rest
  exact ⟨tag, classes, attributes, text⟩

end ElementHead

namespace Element

/-- Another head that is written alike, with children that can be read back. -/
theorem IsWritable.of_alike {head other : ElementHead} {children others : List Element}
    (h : IsWritable (.node head children)) (alike : head.IsAlike other)
    (none : children = [] → others = []) (each : AreWritable others) :
    IsWritable (.node other others) := by
  cases h with
  | node _ _ names void _ =>
    refine .node other others (alike.isWritable names) ?_ each
    intro isVoid
    rw [alike.isVoid] at isVoid
    obtain ⟨text, childless⟩ := void isVoid
    exact ⟨alike.text.trans text, none childless⟩

theorem IsWritable.mapHeads {f : ElementHead → ElementHead}
    (alike : ∀ h : ElementHead, h.IsAlike (f h)) {element : Element} (h : element.IsWritable) :
    (element.mapHeads f).IsWritable := by
  induction h with
  | node head children names void each ih =>
    rw [Element.mapHeads, mapHeadsAll_eq_map]
    refine (IsWritable.node head children names void each).of_alike (alike head) ?_ ?_
    · rintro rfl
      rfl
    · intro other mem
      obtain ⟨child, inside, rfl⟩ := List.mem_map.mp mem
      exact ih child inside

theorem exists_of_mem_amendAll {s : OverrideSet} {later : List String} {other : Element}
    {elements : List Element} (mem : other ∈ amendAll s later elements) :
    ∃ element ∈ elements, ∃ ids, other = element.amend s ids := by
  induction elements with
  | nil => simp [amendAll] at mem
  | cons element elements ih =>
    rw [amendAll, List.mem_cons] at mem
    rcases mem with rfl | mem
    · exact ⟨element, by simp, _, rfl⟩
    · obtain ⟨e, inside, ids, rfl⟩ := ih mem
      exact ⟨e, List.mem_cons_of_mem _ inside, ids, rfl⟩

theorem exists_of_mem_pruneAll {other : Element} {elements : List Element}
    (mem : other ∈ pruneAll elements) : ∃ element ∈ elements, other = element.prune := by
  induction elements with
  | nil => simp [pruneAll] at mem
  | cons element elements ih =>
    have later (mem : other ∈ pruneAll elements) :
        ∃ e ∈ element :: elements, other = e.prune := by
      obtain ⟨e, inside, same⟩ := ih mem
      exact ⟨e, List.mem_cons_of_mem _ inside, same⟩
    rw [pruneAll] at mem
    split at mem
    · exact later mem
    · rcases List.mem_cons.mp mem with rfl | mem
      · exact ⟨element, by simp, rfl⟩
      · exact later mem

theorem IsWritable.amend {element : Element} (h : element.IsWritable) (s : OverrideSet)
    (later : List String) : (element.amend s later).IsWritable := by
  induction h generalizing later with
  | node head children names void each ih =>
    rw [Element.amend]
    refine (IsWritable.node head children names void each).of_alike
      (ElementHead.isAlike_amendFrom s _ head) ?_ ?_
    · rintro rfl
      rfl
    · intro other mem
      obtain ⟨child, inside, ids, rfl⟩ := exists_of_mem_amendAll mem
      exact ih child inside ids

theorem IsWritable.prune {element : Element} (h : element.IsWritable) :
    element.prune.IsWritable := by
  induction h with
  | node head children names void each ih =>
    rw [Element.prune]
    refine (IsWritable.node head children names void each).of_alike ⟨rfl, rfl, rfl, rfl⟩ ?_ ?_
    · rintro rfl
      rfl
    · intro other mem
      obtain ⟨child, inside, rfl⟩ := exists_of_mem_pruneAll mem
      exact ih child inside

end Element

namespace DocumentTree

theorem areWritable_mapHeads {f : ElementHead → ElementHead}
    (alike : ∀ h : ElementHead, h.IsAlike (f h)) {d : DocumentTree} (h : AreWritable d.roots) :
    AreWritable (d.mapHeads f).roots := by
  have same : (d.mapHeads f).roots = d.roots.map (Element.mapHeads f) := by
    simp [roots, mapHeads, mapRoots, Function.comp_def]
  rw [same]
  intro element mem
  obtain ⟨root, inside, rfl⟩ := List.mem_map.mp mem
  exact (h root inside).mapHeads alike

theorem exists_of_mem_amendSections {s : OverrideSet} {t : SectionTree}
    {sections : List SectionTree} (mem : t ∈ amendSections s sections) :
    ∃ t' ∈ sections, ∃ ids, t.root = t'.root.amend s ids := by
  induction sections with
  | nil => simp [amendSections] at mem
  | cons first sections ih =>
    rw [amendSections, List.mem_cons] at mem
    rcases mem with rfl | mem
    · exact ⟨first, by simp, _, rfl⟩
    · obtain ⟨t', inside, ids, same⟩ := ih mem
      exact ⟨t', List.mem_cons_of_mem _ inside, ids, same⟩

theorem areWritable_override {d : DocumentTree} (h : AreWritable d.roots) (s : OverrideSet) :
    AreWritable (d.override s).roots := by
  unfold override
  split
  · exact h
  · have header := h d.header (by simp [roots])
    intro element mem
    simp only [roots, prune, amend, List.map_map, List.mem_cons, List.mem_map, List.mem_filter]
      at mem
    rcases mem with rfl | ⟨t, ⟨inside, -⟩, rfl⟩
    · exact (header.amend s _).prune
    · obtain ⟨t', among, ids, same⟩ := exists_of_mem_amendSections inside
      have root := h t'.root (List.mem_cons_of_mem _ (List.mem_map_of_mem among))
      rw [Function.comp_apply, same]
      exact (root.amend s ids).prune

end DocumentTree

/-- Whatever the content, the layout and the overrides are, the tree can be read back. -/
theorem areWritable_compiledTree {content : Content} {layout : LayoutTokens}
    {overrides : OverrideSet} {tree : DocumentTree}
    (h : compiledTree content layout overrides = .ok tree) : AreWritable tree.roots := by
  obtain ⟨-, identified, given, rfl⟩ := compiledTree_eq_ok_iff.mp h
  obtain rfl := DocumentTree.eq_of_identify given
  exact DocumentTree.areWritable_override (DocumentTree.areWritable_mapHeads
    ElementHead.isAlike_withPathId (DocumentTree.areWritable_assemble content layout)) overrides

/-! The page of a document -/

/-- Nothing that a mode adds can end what it stands in. -/
theorem ModeLayer.lacks_of {options : RenderOptions} {layer : ModeLayer}
    (h : ModeLayer.of options = .ok layer) :
    Lacks '<' layer.editSheet ∧ Lacks '<' layer.protectionSheet
      ∧ ∀ script ∈ layer.scripts, Lacks '<' script.body := by
  have none : Lacks '<' "" := .of_chars rfl rfl
  unfold ModeLayer.of at h
  split at h
  · obtain rfl := Except.ok.inj h
    refine ⟨lacks_editSheet, none, ?_⟩
    intro script mem
    obtain rfl : script = _ := by simpa [interactive] using mem
    exact lacks_editScript _ _
  · obtain rfl := Except.ok.inj h
    exact ⟨none, none, by simp⟩
  · simp at h
  · split at h
    · simp at h
    · next p _ _ _ =>
      obtain ⟨text, -, made⟩ := Checked.bind_eq_ok.mp h
      obtain rfl := Except.ok.inj made
      refine ⟨none, lacks_protectionSheet p.blockCopy, ?_⟩
      intro script mem
      simp only [protecting] at mem
      split at mem
      · obtain rfl : script = _ := by simpa using mem
        exact lacks_protectionScript
      · simp at mem

namespace DocumentTree

/-- The columns as they are read: the roots of the sections that are shown there, in order. -/
def readColumn (d : DocumentTree) (column : Column) : List (List Html) :=
  (d.sections.filter fun s => s.column = column).map fun s => [s.root.read]

/-- The body of a document as it is read. The sidebar is there only if something is shown in it. -/
def readBody (d : DocumentTree) (layout : LayoutTokens) : List Html :=
  box ("cv-body layout-" ++ layout.page.word)
    (onlyIf (!(d.readColumn .sidebar).isEmpty) (box "cv-sidebar" (d.readColumn .sidebar))
      ++ [box "cv-main" (d.readColumn .main)])

/-- The roots that are shown in a document. -/
def shownRoots (d : DocumentTree) : List Element :=
  d.header :: ((d.sections.filter fun s => s.column = .sidebar)
    ++ d.sections.filter fun s => s.column = .main).map SectionTree.root

variable {d : DocumentTree}

theorem isWritable_of_mem_column (h : AreWritable d.roots) {column : Column} {t : SectionTree}
    (mem : t ∈ d.sections.filter fun s => s.column = column) : t.root.IsWritable :=
  h t.root (List.mem_cons_of_mem _ (List.mem_map_of_mem (List.mem_filter.mp mem).1))

/-- The sections of a column stay apart on their lines, and each of them can be read back. -/
theorem columnHtml_apart (h : AreWritable d.roots) (column : Column) :
    Page.AreApart (d.columnHtml column)
      ∧ ∀ part ∈ d.columnHtml column, ∀ html ∈ part, Writable html := by
  constructor
  · intro part mem
    obtain ⟨t, -, rfl⟩ := List.mem_map.mp mem
    exact ⟨by simp, by simpa using Element.isElement_html t.root⟩
  · intro part mem html inside
    obtain ⟨t, among, rfl⟩ := List.mem_map.mp mem
    obtain rfl : html = t.root.html := by simpa using inside
    exact (isWritable_of_mem_column h among).html.1

theorem map_asRead_columnHtml (h : AreWritable d.roots) (column : Column) :
    (d.columnHtml column).map (·.map Html.asRead) = d.readColumn column := by
  rw [columnHtml, readColumn, List.map_map]
  apply List.map_congr_left
  intro t mem
  simp [(isWritable_of_mem_column h mem).html.2]

theorem isReadable_page (h : AreWritable d.roots) {style : Json} {tokens : StyleTokens}
    (resolved : StyleTokens.ofJson style = .ok tokens) {options : RenderOptions}
    {layer : ModeLayer} (mode : ModeLayer.of options = .ok layer) (title : String) :
    (d.page tokens layer title).IsReadable where
  stylesheet := StyleTokens.lacks_stylesheet resolved
  editSheet := (ModeLayer.lacks_of mode).1
  protectionSheet := (ModeLayer.lacks_of mode).2.1
  scripts := (ModeLayer.lacks_of mode).2.2
  layout := by
    have each (layout : PageLayout) :
        Token.keptValue "div" "class" ("cv-body layout-" ++ layout.word)
          = "cv-body layout-" ++ layout.word := by
      cases layout <;> decide
    exact each tokens.layout.page
  decorations := Decoration.writable_layer _
  header := by
    have header := (h d.header (by simp [roots])).html.1
    exact ⟨by simpa [Page.AreApart, page] using Element.isElement_html d.header,
      by simpa [page] using header⟩
  sidebar := columnHtml_apart h .sidebar
  main := columnHtml_apart h .main

/-- The body of the page of a tree, as it is read. -/
theorem columns_asRead_page (h : AreWritable d.roots) (tokens : StyleTokens) (layer : ModeLayer)
    (title : String) :
    (d.page tokens layer title).asRead.columns = d.readBody tokens.layout := by
  have sidebar := map_asRead_columnHtml h .sidebar
  have main := map_asRead_columnHtml h .main
  simp only [Page.columns, Page.asRead, page, sidebar, main]
  rfl

theorem header_asRead_page (h : AreWritable d.roots) (tokens : StyleTokens) (layer : ModeLayer)
    (title : String) : (d.page tokens layer title).asRead.header = [d.header.read] := by
  have header := (h d.header (by simp [roots])).html.2
  simp [Page.asRead, page, header]

/-- The wrapper of the page of a tree, as it is read. -/
theorem wrapper_asRead_page (h : AreWritable d.roots) (tokens : StyleTokens) (layer : ModeLayer)
    (title : String) : (d.page tokens layer title).asRead.wrapper = box "cv-wrapper"
      (onlyIf (!(d.page tokens layer title).decorations.isEmpty)
          ((d.page tokens layer title).decorations.map Html.asRead)
        ++ [box "cv-container" [[d.header.read], d.readBody tokens.layout]]) := by
  rw [Page.wrapper, header_asRead_page h, columns_asRead_page h]
  simp [Page.asRead]

theorem mem_roots_of_mem_shownRoots {root : Element} (mem : root ∈ d.shownRoots) :
    root ∈ d.roots := by
  simp only [shownRoots, roots, List.mem_cons, List.mem_map, List.mem_append, List.mem_filter]
    at mem ⊢
  rcases mem with rfl | ⟨t, ⟨inside, -⟩ | ⟨inside, -⟩, rfl⟩
  · exact .inl rfl
  · exact .inr ⟨t, inside, rfl⟩
  · exact .inr ⟨t, inside, rfl⟩

/-- What a view through boxes sees in the wrapper of a tree that can be read back is what it sees of
the roots that are shown, if it sees nothing of the decorations. -/
theorem view_wrapper_asRead_page {α : Type} {view : List Html → List α}
    (boxed : Page.IsBoxView view) (h : AreWritable d.roots) (tokens : StyleTokens)
    (layer : ModeLayer) (title : String)
    (bare : view (d.page tokens layer title).asRead.decorations = []) :
    view (d.page tokens layer title).asRead.wrapper
      = d.shownRoots.flatMap fun root => view [root.read] := by
  have column (c : Column) : ((d.columnHtml c).map (·.map Html.asRead)).flatMap view
      = (d.sections.filter fun s => s.column = c).flatMap fun s => view [s.root.read] := by
    rw [map_asRead_columnHtml h, readColumn, List.flatMap_map]
  have sidebar : (d.page tokens layer title).asRead.sidebar.flatMap view = _ := column .sidebar
  have main : (d.page tokens layer title).asRead.main.flatMap view = _ := column .main
  rw [boxed.wrapper, bare, header_asRead_page h, sidebar, main, List.nil_append, shownRoots,
    List.flatMap_cons, List.flatMap_map, List.flatMap_append, List.append_assoc]

/-- The same of the whole page, if the view sees nothing around the wrapper. -/
theorem view_asRead_page {α : Type} {view : List Html → List α} (inner : Page.IsInnerView view)
    (h : AreWritable d.roots) (tokens : StyleTokens) (layer : ModeLayer) (title : String)
    (bare : view (d.page tokens layer title).asRead.decorations = []) :
    view (d.page tokens layer title).asRead.html
      = d.shownRoots.flatMap fun root => view [root.read] :=
  (inner.inside _).trans (view_wrapper_asRead_page inner.toIsBoxView h tokens layer title bare)

/-- What has an id in the page of a tree are the elements that it shows. -/
theorem namedIn_asRead_page (h : AreWritable d.roots) (tokens : StyleTokens) (layer : ModeLayer)
    (title : String) : Page.namedIn (d.page tokens layer title).asRead.html
      = Element.seen ElementHead.namedTag? d.shownRoots := by
  have bare : Page.namedIn (d.page tokens layer title).asRead.decorations = [] :=
    Html.tagsWithAll_map_asRead (Decoration.avoidsAll_layer (by simp [foundNames]) _)
  have each : ∀ root ∈ d.shownRoots,
      Page.namedIn [root.read] = Element.seen ElementHead.namedTag? [root] := by
    intro root mem
    have found := (h root (mem_roots_of_mem_shownRoots mem)).tagsWith_read
    rw [Page.namedIn, Html.tagsWithAll, found, Html.tagsWithAll, List.append_nil]
  rw [view_asRead_page Page.isInnerView_namedIn h tokens layer title bare,
    Element.seen_eq_flatMap]
  exact List.flatMap_congr each

theorem isWritable_of_mem_shownRoots (h : AreWritable d.roots) {head : ElementHead}
    (mem : head ∈ Element.walkAll d.shownRoots) : head.IsWritable := by
  obtain ⟨root, inside, mem⟩ := Element.exists_of_mem_walkAll mem
  exact (h root (mem_roots_of_mem_shownRoots inside)).of_mem_walk head mem

/-- The ids in the page of a tree are those of the elements that it shows. -/
theorem idsIn_asRead_page (h : AreWritable d.roots) (tokens : StyleTokens) (layer : ModeLayer)
    (title : String) :
    Page.idsIn (d.page tokens layer title).asRead.html = Element.addresses d.shownRoots := by
  rw [Page.idsIn_eq, namedIn_asRead_page h, Element.seen, List.filterMap_filterMap,
    Element.addresses]
  apply List.filterMap_congr
  intro head mem
  have own := (ElementHead.isFoundIn_readTag (isWritable_of_mem_shownRoots h mem)).id
  cases address : head.address? with
  | none => simp [ElementHead.namedTag?, address]
  | some id => simp [ElementHead.namedTag?, address, own]

end DocumentTree

/-! Documents -/

/-- A protected preview that is not told how is protected in the default way. -/
def RenderOptions.settled (options : RenderOptions) : RenderOptions :=
  { options with protection := some (options.protection.getD ⟨defaultWatermark, true⟩) }

def pageTitle (content : Content) : String := "CV - " ++ Text.trim content.fullName

/-- A document that is compiled is the text of the page of its tree. -/
theorem exists_page_of_compile {content : Content} {style : Checked StyleTokens}
    {overrides : OverrideSet} {options : RenderOptions} {document : String}
    (h : compile content style overrides options = .ok document) :
    ∃ tokens tree layer, style = .ok tokens
      ∧ compiledTree content tokens.layout overrides = .ok tree
      ∧ ModeLayer.of options.settled = .ok layer
      ∧ document = (tree.page tokens layer (pageTitle content)).text := by
  unfold compile at h
  obtain ⟨-, -, h⟩ := Checked.bind_eq_ok.mp h
  obtain ⟨tokens, resolved, h⟩ := Checked.bind_eq_ok.mp h
  unfold compileWith at h
  obtain ⟨tree, compiled, h⟩ := Checked.bind_eq_ok.mp h
  unfold DocumentTree.render at h
  obtain ⟨layer, mode, h⟩ := Checked.bind_eq_ok.mp h
  exact ⟨tokens, tree, layer, resolved, compiled, mode, (Except.ok.inj h).symm⟩

/-- A document that is compiled can be read at all. -/
theorem check_compile {content : Content} {style : Json} {overrides : OverrideSet}
    {options : RenderOptions} {document : String}
    (h : compile content (StyleTokens.ofJson style) overrides options = .ok document) :
    Inspection.check document = .ok () := by
  obtain ⟨tokens, tree, layer, resolved, compiled, mode, rfl⟩ := exists_page_of_compile h
  have readable := DocumentTree.isReadable_page (areWritable_compiledTree compiled) resolved mode
    (pageTitle content)
  rw [Inspection.check, Page.isRefused_text readable]
  rfl

/-- Parsing undoes compiling. A document is read as the page with exactly its tree in the container:
the header, then the columns with the roots of their sections. Every element is found there with its
own name, attributes and text, and nothing else has an id. -/
theorem parse_compile {content : Content} {style : Json} {overrides : OverrideSet}
    {options : RenderOptions} {document : String}
    (h : compile content (StyleTokens.ofJson style) overrides options = .ok document) :
    ∃ tokens tree layer, StyleTokens.ofJson style = .ok tokens
      ∧ compiledTree content tokens.layout overrides = .ok tree
      ∧ ModeLayer.of options.settled = .ok layer
      ∧ Inspection.check document = .ok ()
      ∧ (let page := tree.page tokens layer (pageTitle content)
        Html.parse document.toList = [.bracketed .doctype "html", lineEnd,
          .paired "html" [("lang", "en")] (onLines
            [[.paired "head" [] (onLines page.headParts)],
              [.paired "body" [] (onLines
                (box "cv-wrapper"
                    (onlyIf (!page.decorations.isEmpty) (page.decorations.map Html.asRead)
                      ++ [box "cv-container"
                        [[tree.header.read], tree.readBody tokens.layout]])
                  :: onlyIf (!page.tile.isEmpty) (Page.overlay page.tile)
                  ++ page.scripts.map Page.scriptBlock))]])])
      ∧ (∀ head ∈ Element.walkAll tree.shownRoots, head.IsFoundIn head.readTag)
      ∧ Inspection.elementIds document = Element.addresses tree.shownRoots := by
  have checked := check_compile h
  obtain ⟨tokens, tree, layer, resolved, compiled, mode, rfl⟩ := exists_page_of_compile h
  have writable := areWritable_compiledTree compiled
  have readable := DocumentTree.isReadable_page writable resolved mode (pageTitle content)
  have parsed := Page.parse_text readable
  refine ⟨tokens, tree, layer, resolved, compiled, mode, checked, ?_, ?_, ?_⟩
  · rw [parsed]
    dsimp only
    rw [← DocumentTree.wrapper_asRead_page writable]
    rfl
  · intro head mem
    obtain ⟨root, inside, mem⟩ := Element.exists_of_mem_walkAll mem
    have whole := writable root (DocumentTree.mem_roots_of_mem_shownRoots inside)
    exact ElementHead.isFoundIn_readTag (whole.of_mem_walk head mem)
  · rw [Inspection.elementIds, parsed]
    exact DocumentTree.idsIn_asRead_page writable tokens layer _

/-- A content with a headline, in the style that nothing is asked of. -/
def engineerContent : Content := { fullName := "Ada", headline := some "Engineer" }

/-- The ids that are shown of this content once its headline is hidden. -/
def engineerIds : Checked (List String) := do
  let tokens ← StyleTokens.ofJson (.object [])
  let tree ← compiledTree engineerContent tokens.layout headlineHidden
  return Element.addresses tree.shownRoots

theorem parse_compile_engineer :
    ∃ document, compile engineerContent (StyleTokens.ofJson (.object [])) headlineHidden
        { mode := .previewProtected } = .ok document
      ∧ Inspection.elementIds document = ["header", "header-name"] := by
  have compiled : (compile engineerContent (StyleTokens.ofJson (.object [])) headlineHidden
      { mode := .previewProtected }).isOk := by decide +kernel
  have ids : engineerIds.toOption = some ["header", "header-name"] := by decide +kernel
  obtain ⟨document, compiled⟩ := Checked.exists_of_isOk compiled
  obtain ⟨tokens, tree, layer, resolved, built, -, -, -, -, found⟩ := parse_compile compiled
  refine ⟨document, compiled, ?_⟩
  have same : engineerIds = .ok (Element.addresses tree.shownRoots) := by
    exact Checked.bind_eq_ok.mpr ⟨tokens, resolved,
      Checked.bind_eq_ok.mpr ⟨tree, built, rfl⟩⟩
  rw [same] at ids
  rw [found]
  exact Option.some.inj ids

end Vitae
