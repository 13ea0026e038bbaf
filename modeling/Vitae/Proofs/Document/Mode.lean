import Vitae.Proofs.Document.Compilation

/-!
One content in several modes. Documents that differ only in what they are rendered for have the same
layout, the same ids and the same text to an inspection, which takes away what a mode adds.
-/

namespace Vitae

open Html (isModeLayer isBlank withoutAll textsAll)
open Page (IsView IsModeless frames styleBlock scriptBlock)

namespace Page

theorem isModeless_idsIn : IsModeless idsIn where
  append htmls others := by
    simp only [idsIn_eq, isView_namedIn.append, List.filterMap_append]
  lineEnd := rfl
  editSheet css := by rw [idsIn_eq, namedIn_styleBlock, List.filterMap_nil]
  protectionSheet css := by rw [idsIn_eq, namedIn_styleBlock, List.filterMap_nil]
  overlay tile := by rw [idsIn_eq, namedIn_overlay, List.filterMap_nil]
  script script := by rw [idsIn_eq, namedIn_scriptBlock, List.filterMap_nil]
  inside := by
    intro frame mem children others same
    have none : frame.2.lookup "data-element-id" = none := by
      have each : ∀ frame ∈ frames, frame.2.lookup "data-element-id" = none := by decide
      exact each frame mem
    have inner (htmls : List Html) :
        idsIn [.paired frame.1 frame.2 htmls] = idsIn htmls := by
      rw [idsIn_eq, namedIn, Html.paired, tagsWithAll_element none, ← namedIn, ← idsIn_eq]
    rw [inner, inner, same]

/-! What a mode adds is a layer -/

/-- Trees without what a mode adds. -/
def withoutLayers (htmls : List Html) : List Html := withoutAll isModeLayer htmls

theorem withoutLayers_layer {html : Html} (h : isModeLayer html) : withoutLayers [html] = [] := by
  simp [withoutLayers, withoutAll, h]

theorem withoutLayers_styleBlock {id : String}
    (layer : id ∈ ["cv-edit-styles", "cv-protection-styles"]) (css : String) :
    withoutLayers (styleBlock id css) = [] := by
  apply withoutLayers_layer
  have known : ["cv-edit-styles", "cv-protection-styles"].contains id := by simpa using layer
  have own : [("id", id)].lookup "id" = some id := by simp
  simp only [isModeLayer, Html.attribute?, Html.paired, own, Option.any_some, known, Bool.or_true,
    Bool.true_or]

theorem withoutLayers_overlay (tile : String) : withoutLayers (overlay tile) = [] := by
  apply withoutLayers_layer
  simp [isModeLayer, Html.attribute?, Html.isNamed, Html.paired, List.lookup_cons]

theorem withoutLayers_scriptBlock (script : PageScript) : withoutLayers (scriptBlock script) = [] :=
  withoutLayers_layer (by simp [isModeLayer, Html.isNamed, Html.paired])

theorem withoutLayers_frame {frame : String × List (String × String)} (mem : frame ∈ frames)
    (children : List Html) : withoutLayers [.paired frame.1 frame.2 children]
      = [.paired frame.1 frame.2 (withoutLayers children)] := by
  simp only [frames, List.mem_cons, List.not_mem_nil, or_false] at mem
  rcases mem with rfl | rfl | rfl <;> rfl

/-- A view of what is left without the parts of a mode does not see them. -/
theorem isModeless_of_layout {α : Type} {view : List Html → List α} (h : IsView view)
    (inside : ∀ frame ∈ frames, ∀ children others, view children = view others →
      view [.paired frame.1 frame.2 children] = view [.paired frame.1 frame.2 others]) :
    IsModeless fun htmls => view (withoutLayers htmls) where
  append htmls others := by
    rw [withoutLayers, Html.withoutAll_append, h.append]
    rfl
  lineEnd := h.lineEnd
  editSheet css := by rw [withoutLayers_styleBlock (by simp), h.nil]
  protectionSheet css := by rw [withoutLayers_styleBlock (by simp), h.nil]
  overlay tile := by rw [withoutLayers_overlay, h.nil]
  script script := by rw [withoutLayers_scriptBlock, h.nil]
  inside := by
    intro frame mem children others same
    rw [withoutLayers_frame mem, withoutLayers_frame mem]
    exact inside frame mem _ _ same

/-! Signature and text -/

theorem isView_withoutBlanks : IsView (withoutAll isBlank) where
  append := Html.withoutAll_append _
  lineEnd := by decide

theorem isModeless_signature :
    IsModeless fun htmls => withoutAll isBlank (withoutLayers htmls) := by
  apply isModeless_of_layout isView_withoutBlanks
  intro frame mem children others same
  simp [withoutAll, isBlank, Html.paired, Html.without, same]

/-- The lines of the texts that are shown of trees. -/
def linesIn (htmls : List Html) : List String :=
  (textsAll false (withoutAll Inspection.isSilent htmls)).flatMap Text.shownLines

theorem isView_linesIn : IsView linesIn where
  append htmls others := by
    rw [linesIn, Html.withoutAll_append, Html.textsAll_append, List.flatMap_append]
    rfl
  lineEnd := by decide

/-- The texts of an element are those of its children, unless it is silent or set aside. -/
theorem linesIn_element {tag : Tag} {children : List Html}
    (shown : Inspection.isSilent (.element tag children) = false)
    (aside : Html.asideNames.contains tag.name = false) :
    linesIn [.element tag children] = linesIn children := by
  have texts : textsAll false [.element tag (withoutAll Inspection.isSilent children)]
      = textsAll false (withoutAll Inspection.isSilent children) := by
    rw [textsAll, Html.texts, aside, textsAll, List.append_nil]
    rfl
  rw [linesIn, withoutAll, shown, if_neg (by decide), withoutAll]
  exact congrArg (List.flatMap Text.shownLines) texts

/-- Nothing in the head of a page is shown, and everything else is. -/
theorem linesIn_frame {frame : String × List (String × String)} (mem : frame ∈ frames)
    (children : List Html) : linesIn [.paired frame.1 frame.2 children]
      = if frame.1 = "head" then [] else linesIn children := by
  simp only [frames, List.mem_cons, List.not_mem_nil, or_false] at mem
  rcases mem with rfl | rfl | rfl
  · exact linesIn_element rfl (by decide)
  · rfl
  · exact linesIn_element rfl (by decide)

theorem isModeless_lines : IsModeless fun htmls => linesIn (withoutLayers htmls) := by
  apply isModeless_of_layout isView_linesIn
  intro frame mem children others same
  rw [linesIn_frame mem, linesIn_frame mem, same]

end Page

/-- Documents of one content, style and overrides look the same to a view that does not see what
their modes add. -/
theorem view_compile {α : Type} {view : List Html → List α} (modeless : IsModeless view)
    {content : Content} {style : Json} {overrides : OverrideSet} {options others : RenderOptions}
    {document other : String}
    (h : compile content (StyleTokens.ofJson style) overrides options = .ok document)
    (h' : compile content (StyleTokens.ofJson style) overrides others = .ok other) :
    view (Html.parse document.toList) = view (Html.parse other.toList) := by
  obtain ⟨tokens, tree, layer, resolved, compiled, mode, rfl⟩ := exists_page_of_compile h
  obtain ⟨tokens', tree', layer', resolved', compiled', mode', rfl⟩ := exists_page_of_compile h'
  obtain rfl : tokens = tokens' := Except.ok.inj (resolved.symm.trans resolved')
  obtain rfl : tree = tree' := Except.ok.inj (compiled.symm.trans compiled')
  have writable := areWritable_compiledTree compiled
  have readable := DocumentTree.isReadable_page writable resolved mode (pageTitle content)
  have readable' := DocumentTree.isReadable_page writable resolved mode' (pageTitle content)
  have plain : (tree.page tokens layer (pageTitle content)).asRead.plain
      = (tree.page tokens layer' (pageTitle content)).asRead.plain := rfl
  rw [Page.parse_text readable, Page.parse_text readable', modeless.view_html, plain,
    ← modeless.view_html]

/-- Modes are faithful. Documents of one content, style and overrides, whatever mode, protection and
channel each of them is compiled for, can all be inspected, and they agree in their layout, in the
ids of their elements and in the text they show. -/
theorem compile_modes_agree {content : Content} {style : Json} {overrides : OverrideSet}
    {options others : RenderOptions} {document other : String}
    (h : compile content (StyleTokens.ofJson style) overrides options = .ok document)
    (h' : compile content (StyleTokens.ofJson style) overrides others = .ok other) :
    (Inspection.check document = .ok () ∧ Inspection.check other = .ok ())
      ∧ Inspection.sameLayout document other = true
      ∧ Inspection.elementIds other = Inspection.elementIds document
      ∧ Inspection.visibleText other = Inspection.visibleText document := by
  refine ⟨⟨check_compile h, check_compile h'⟩, ?_, ?_, ?_⟩
  · have bare : withoutAll isBlank (Inspection.layout document)
        = withoutAll isBlank (Inspection.layout other) :=
      view_compile Page.isModeless_signature h h'
    rw [Inspection.sameLayout, Inspection.signature, Inspection.signature, bare, beq_self_eq_true]
  · exact view_compile Page.isModeless_idsIn h' h
  · have lines : Inspection.visibleLines other = Inspection.visibleLines document := by
      rw [Inspection.visibleLines_eq, Inspection.visibleLines_eq]
      exact view_compile Page.isModeless_lines h' h
    rw [Inspection.visibleText, Inspection.visibleText, lines]

/-- One content for editing, for export and as a protected preview. -/
theorem compile_modes_agree_engineer :
    ∃ edited exported previewed,
      compile engineerContent (StyleTokens.ofJson (.object [])) headlineHidden
          { mode := .interactive } = .ok edited
        ∧ compile engineerContent (StyleTokens.ofJson (.object [])) headlineHidden
          { mode := .exported } = .ok exported
        ∧ compile engineerContent (StyleTokens.ofJson (.object [])) headlineHidden
          { mode := .previewProtected } = .ok previewed
        ∧ Inspection.sameLayout exported edited = true
        ∧ Inspection.elementIds previewed = Inspection.elementIds exported
        ∧ Inspection.visibleText previewed = Inspection.visibleText exported := by
  have compiled : ∀ mode ∈ RenderMode.all, (compile engineerContent
      (StyleTokens.ofJson (.object [])) headlineHidden { mode }).isOk := by decide +kernel
  obtain ⟨edited, editing⟩ := Checked.exists_of_isOk (compiled .interactive (by decide))
  obtain ⟨exported, exporting⟩ := Checked.exists_of_isOk (compiled .exported (by decide))
  obtain ⟨previewed, previewing⟩ := Checked.exists_of_isOk (compiled .previewProtected (by decide))
  have first := compile_modes_agree exporting editing
  have second := compile_modes_agree exporting previewing
  exact ⟨edited, exported, previewed, editing, exporting, previewing, first.2.1, second.2.2.1,
    second.2.2.2⟩

end Vitae
