import Vitae.Proofs.Document.Text
import Vitae.Proofs.Markup.Tile
import Vitae.Proofs.Override.Relevance

/-!
The watermark of a protected preview. A tile carries any text, and a document that is protected has
one overlay, from which exactly its watermark can be read.
-/

namespace Vitae

open Element (walkAll)
open Html (tagsWithAll)
open Text.Percent (IsEncoded decodeBytes?)

/-! Overlays in trees -/

namespace Element

mutual

/-- An element none of whose heads has an attribute has no tag with it. -/
theorem tagsWith_read {name : String} {element : Element}
    (none : ∀ head ∈ element.walk, head.readTag.attributes.lookup name = none) :
    Html.tagsWith name element.read = [] := by
  match element with
  | .node head children =>
    have own := none head (by simp [walk])
    have below : tagsWithAll name (readAll children) = [] :=
      tagsWithAll_readAll fun other mem => none other (by simp [walk, mem])
    have text := Html.tagsWithAll_heldText name (head.text.getD "")
    rw [← ElementHead.textHtml_eq] at text
    rw [read, Html.tagsWith, own, Html.tagsWithAll_append, text, below]
    rfl

theorem tagsWithAll_readAll {name : String} {elements : List Element}
    (none : ∀ head ∈ walkAll elements, head.readTag.attributes.lookup name = none) :
    tagsWithAll name (readAll elements) = [] := by
  match elements with
  | [] => rfl
  | element :: rest =>
    have first : Html.tagsWith name element.read = [] :=
      tagsWith_read fun head mem => none head (by simp [walkAll, mem])
    have others : tagsWithAll name (readAll rest) = [] :=
      tagsWithAll_readAll fun head mem => none head (by simp [walkAll, mem])
    rw [readAll, tagsWithAll, first, others, List.append_nil]

end

end Element

namespace Page

/-- The tags in trees that say they protect a document by a watermark. -/
def overlaysIn (htmls : List Html) : List Tag :=
  (tagsWithAll "data-protection" htmls).filter fun tag =>
    tag.attributes.lookup "data-protection" = some "watermark"

def overlayTag (tile : String) : Tag :=
  { name := "div"
    attributes := [("class", "cv-watermark"), ("data-protection", "watermark"),
      ("aria-hidden", "true"), ("style", "background-image: url(" ++ tile ++ ");")] }

theorem overlaysIn_overlay (tile : String) : overlaysIn (overlay tile) = [overlayTag tile] := rfl

theorem overlaysIn_scriptBlock {script : PageScript} (other : script.role ≠ "watermark") :
    overlaysIn (scriptBlock script) = [] := by
  have protecting : overlaysIn [.paired "script"
      [("id", script.id), ("data-protection", script.role)]
      [.verbatim ("\n" ++ script.body ++ "\n")]] = [] := by
    simp [overlaysIn, Html.paired, tagsWithAll, Html.tagsWith, List.lookup_cons, other]
  unfold scriptBlock
  split
  · rw [overlaysIn, Html.paired, tagsWithAll_element (lookup_eq_none (by simp))]
    rfl
  · exact protecting

theorem overlaysIn_flatMap (parts : List (List Html)) :
    (parts.flatMap (tagsWithAll "data-protection")).filter
        (fun tag => tag.attributes.lookup "data-protection" = some "watermark")
      = parts.flatMap overlaysIn := by
  rw [List.filter_flatMap]
  rfl

/-- A page with a tile has its overlay, and nothing else that says so around its wrapper. -/
theorem overlaysIn_html {p : Page} (some : p.tile.isEmpty = false)
    (roles : ∀ script ∈ p.scripts, script.role ≠ "watermark") :
    overlaysIn p.html = overlaysIn p.wrapper ++ [overlayTag p.tile] := by
  have scripts : (p.scripts.map scriptBlock).flatMap overlaysIn = [] := by
    rw [List.flatMap_map, List.flatMap_eq_nil_iff]
    exact fun script mem => overlaysIn_scriptBlock (roles script mem)
  have body : overlaysIn p.html = p.bodyParts.flatMap overlaysIn := by
    rw [overlaysIn, tagsWithAll_html (by decide) (by decide), overlaysIn_flatMap]
  rw [body, bodyParts, List.cons_append, List.flatMap_cons, List.flatMap_append, flatMap_onlyIf,
    some, Bool.not_false, if_pos rfl, scripts, overlaysIn_overlay, List.append_nil]

/-- What a reader of the style of an overlay sees. -/
def readOverlay? (tag : Tag) : Option String := do
  let style ← tag.attributes.lookup "style"
  let begun ← "background-image: url(".toList.isPrefixOf? style.toList
  let (address, _) ← Style.readUrl? begun
  Tile.read? (String.ofList address)

/-- The overlay with the tile of a text shows the text. -/
theorem readOverlay?_overlayTag (text : String) :
    readOverlay? (overlayTag (Tile.address text)) = some text := by
  have style : (overlayTag (Tile.address text)).attributes.lookup "style"
      = some ("background-image: url(" ++ Tile.address text ++ ");") := rfl
  have begun : "background-image: url(".toList.isPrefixOf?
        ("background-image: url(" ++ Tile.address text ++ ");").toList
      = some ((Tile.address text).toList ++ ')' :: ";".toList) :=
    List.isPrefixOf?_eq_some_iff_append_eq.mpr (by simp)
  have url := Tile.readUrl?_address text ";".toList
  rw [readOverlay?, style, Option.bind_eq_bind, Option.bind_some, begun]
  simp only [Option.bind_eq_bind, Option.bind_some, url, String.ofList_toList, Tile.read?_address]

end Page

/-! Protected documents -/

theorem ModeLayer.eq_protecting {options : RenderOptions} {layer : ModeLayer} {text : String}
    (mode : options.mode = .previewProtected) (own : options.watermark = text)
    (h : ModeLayer.of options.settled = .ok layer) :
    layer.tile = Tile.address (Text.trim text)
      ∧ ∀ script ∈ layer.scripts, script.role ≠ "watermark" := by
  rw [of_settled_of_previewProtected mode, own] at h
  split at h
  · cases h
  · rw [Checked.bind_of_ok (Text.Points.encodable_eq_ok_iff.mpr rfl)] at h
    obtain rfl := Except.ok.inj h
    refine ⟨rfl, fun script mem => ?_⟩
    unfold protecting at mem
    dsimp only at mem
    split at mem
    · obtain rfl := List.mem_singleton.mp mem
      decide
    · exact absurd mem List.not_mem_nil

namespace DocumentTree

/-- Whatever the overrides are, no element of a tree says that it protects the document. -/
theorem isSeenThrough_compiledTree {content : Content} {layout : LayoutTokens}
    {overrides : OverrideSet} {tree : DocumentTree}
    (compiled : compiledTree content layout overrides = .ok tree) :
    ∀ head ∈ tree.walk, head.readTag.IsSeenThrough := by
  have writable := areWritable_compiledTree compiled
  obtain ⟨-, named, given, rfl⟩ := compiledTree_eq_ok_iff.mp compiled
  obtain ⟨identify, unique, -⟩ := identify_of_knownIds (Checked.bind_eq_ok.mpr ⟨named, given, rfl⟩)
  obtain rfl := Except.ok.inj (identify.symm.trans given)
  intro head mem
  obtain ⟨root, whole, inside⟩ := Element.exists_of_mem_walkAll mem
  obtain ⟨revised, among, rfl⟩ :=
    exists_of_mem_walk_override unique (shown_identified content layout) mem
  rw [identified, walk_mapHeads] at among
  obtain ⟨own, made, rfl⟩ := List.mem_map.mp among
  exact (areMade_assemble content layout own made).isSeenThrough ⟨rfl, rfl, rfl, rfl⟩
    ((writable root whole).of_mem_walk _ inside)

end DocumentTree

/-- A protected preview has one overlay, which shows the watermark without the blanks around it. -/
theorem overlaysIn_compile {content : Content} {style : Json} {overrides : OverrideSet}
    {options : RenderOptions} {document text : String} (mode : options.mode = .previewProtected)
    (own : options.watermark = text)
    (h : compile content (StyleTokens.ofJson style) overrides options = .ok document) :
    Page.overlaysIn (Html.parse document.toList)
      = [Page.overlayTag (Tile.address (Text.trim text))] := by
  obtain ⟨tokens, tree, layer, resolved, compiled, layered, rfl⟩ := exists_page_of_compile h
  obtain ⟨tile, roles⟩ := ModeLayer.eq_protecting mode own layered
  have writable := areWritable_compiledTree compiled
  have through := DocumentTree.isSeenThrough_compiledTree compiled
  have some : layer.tile.isEmpty = false := by
    rw [tile, Bool.eq_false_iff, ne_eq, String.isEmpty_iff, ← String.toList_eq_nil_iff]
    simp [Tile.address, Tile.addressChars, Tile.scheme]
  have bare : tagsWithAll "data-protection"
      (tree.page tokens layer (pageTitle content)).asRead.decorations = [] :=
    Html.tagsWithAll_map_asRead (Decoration.avoidsAll_layer (by simp [foundNames]) _)
  have each : ∀ root ∈ tree.shownRoots, tagsWithAll "data-protection" [root.read] = [] := by
    intro root mem
    rw [tagsWithAll, tagsWithAll, List.append_nil]
    exact Element.tagsWith_read fun head inside => (through head (Element.walk_subset_walkAll
      (DocumentTree.mem_roots_of_mem_shownRoots mem) inside)).unprotected
  have wrapper := DocumentTree.view_wrapper_asRead_page
    ⟨Page.isView_tagsWithAll "data-protection", Page.tagsWithAll_box (by decide)⟩ writable tokens
    layer (pageTitle content) bare
  rw [List.flatMap_eq_nil_iff.mpr each] at wrapper
  have within : Page.overlaysIn (tree.page tokens layer (pageTitle content)).asRead.wrapper
      = [] := by
    rw [Page.overlaysIn, wrapper, List.filter_nil]
  rw [Page.parse_text (DocumentTree.isReadable_page writable resolved layered _),
    Page.overlaysIn_html some roles, within, List.nil_append]
  exact congrArg (fun tile => [Page.overlayTag tile]) tile

/-- A tile carries any text safely. Its address is a fixed beginning and then letters and digits of
ASCII, four marks and bytes as `%XX`, so that nothing in it is escaped, no attribute ends in it and
an address in a style ends only behind it. Decoded, it is UTF-8 of a picture whose only text is the
given one. Different texts have different tiles, and a preview that a text protects has one overlay,
which shows that text without the blanks around it. -/
theorem tile_carries_any_text (text : String) :
    (∃ payload bytes svg, Tile.address text = Tile.scheme ++ String.ofList payload
        ∧ IsEncoded payload ∧ decodeBytes? payload = some bytes
        ∧ Text.Utf8.decode? bytes = some svg ∧ Tile.IsDrawingOf text (Html.parse svg.toList))
      ∧ Html.escaped (Tile.address text) = Tile.address text
      ∧ (∀ c ∈ (Tile.address text).toList, isEscaped c = false)
      ∧ (∀ rest, Style.readUrl? ((Tile.address text).toList ++ ')' :: rest)
        = some ((Tile.address text).toList, rest))
      ∧ (∀ other, Tile.address other = Tile.address text → other = text)
      ∧ ∀ content style overrides (options : RenderOptions) document,
        options.mode = .previewProtected → options.watermark = text →
          compile content (StyleTokens.ofJson style) overrides options = .ok document →
            ∃ overlay, Page.overlaysIn (Html.parse document.toList) = [overlay]
              ∧ Page.readOverlay? overlay = some (Text.trim text) := by
  refine ⟨Tile.exists_payload text, Tile.escaped_address text, fun c mem => ?_,
    Tile.readUrl?_address text, fun other same => Tile.address_injective same, ?_⟩
  · rw [Tile.toList_address] at mem
    exact (Tile.isAddressChar_spec (Tile.isAddressChar_of_mem mem)).1
  · intro content style overrides options document mode own compiled
    exact ⟨_, overlaysIn_compile mode own compiled, Page.readOverlay?_overlayTag _⟩

/-- A preview that is protected by a text with blanks around it and marks in it. -/
theorem tile_carries_any_text_engineer :
    ∃ document overlay, compile engineerContent (StyleTokens.ofJson (.object [])) headlineHidden
        { mode := .previewProtected
          protection := some ⟨" \"A\" & <B>) %41 ", true⟩ } = .ok document
      ∧ Page.overlaysIn (Html.parse document.toList) = [overlay]
      ∧ Page.readOverlay? overlay = some "\"A\" & <B>) %41" := by
  have built : (compile engineerContent (StyleTokens.ofJson (.object [])) headlineHidden
      { mode := .previewProtected
        protection := some ⟨" \"A\" & <B>) %41 ", true⟩ }).isOk := by decide +kernel
  obtain ⟨document, compiled⟩ := Checked.exists_of_isOk built
  obtain ⟨-, -, -, -, -, shown⟩ := tile_carries_any_text " \"A\" & <B>) %41 "
  obtain ⟨overlay, sole, read⟩ := shown _ _ _ _ document rfl rfl compiled
  have stripped : Text.trim " \"A\" & <B>) %41 " = "\"A\" & <B>) %41" := by decide
  exact ⟨document, overlay, compiled, sole, read.trans (congrArg some stripped)⟩

end Vitae
