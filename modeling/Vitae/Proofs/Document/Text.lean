import Vitae.Proofs.Document.Addressing
import Vitae.Proofs.Document.Mode
import Vitae.Proofs.Document.Restyling

/-!
What a document says. A reader finds every text of the content in it, on lines of its own and in the
order of the style, and no other text.
-/

namespace Vitae

open Element (seen seen_append seen_cons seen_eq_flatMap seen_flatten seen_node walkAll)
open Html (isModeLayer)

/-! What there is to say -/

/-- Highlights stand one by one, or all in one text. -/
def ExperienceFormat.texts (highlights : List String) : ExperienceFormat → List String
  | .bullets => highlights
  | .paragraph => [" ".intercalate highlights]

def Experience.texts (format : ExperienceFormat) (e : Experience) : List String :=
  [e.title, joinPresent ", " [e.company, e.location.getD ""], e.period]
    ++ format.texts e.highlights

def Education.texts (e : Education) : List String :=
  [e.degree, e.institution, e.year] ++ e.details.toList

def SpokenLanguage.texts (l : SpokenLanguage) : List String := [l.name, l.level]

/-- Skills under the title of their group. Without skills there is no group. -/
def Assembly.SkillCategory.texts (category : SkillCategory) (skills : List String) : List String :=
  if skills.isEmpty then [] else category.title :: skills

namespace Content

def headerTexts (content : Content) : List String :=
  content.fullName :: content.headline.toList
    ++ ((content.contact.map Contact.items).getD []).map Prod.snd

def itemTexts (content : Content) (format : ExperienceFormat) : SectionKind → List String
  | .summary => content.summary.toList
  | .experience => content.experience.flatMap (Experience.texts format)
  | .education => content.education.flatMap Education.texts
  | .skills => Assembly.SkillCategory.technical.texts content.skills.technical
    ++ Assembly.SkillCategory.soft.texts content.skills.soft
  | .languages => content.languages.flatMap SpokenLanguage.texts
  | .certifications => content.certifications

/-- The sections with something in them, those of the sidebar first. -/
def shownKinds (content : Content) (layout : LayoutTokens) : List SectionKind :=
  let kinds := layout.sectionOrder.filter (Assembly.hasContent content)
  (kinds.filter fun kind => Assembly.columnOf layout kind = .sidebar)
    ++ kinds.filter fun kind => Assembly.columnOf layout kind = .main

def sectionTexts (content : Content) (format : ExperienceFormat) (kind : SectionKind) :
    List String :=
  Assembly.sectionTitle kind :: content.itemTexts format kind

/-- Everything that a content says, in the order that a layout says it in. -/
def shownTexts (content : Content) (layout : LayoutTokens) : List String :=
  content.headerTexts
    ++ (content.shownKinds layout).flatMap (content.sectionTexts layout.experienceFormat)

/-- A section is in one of the two columns. -/
theorem shownKinds_perm (content : Content) (layout : LayoutTokens) :
    (content.shownKinds layout).Perm
      (layout.sectionOrder.filter (Assembly.hasContent content)) := by
  have columns (kind : SectionKind) : decide (Assembly.columnOf layout kind = .main)
      = !decide (Assembly.columnOf layout kind = .sidebar) := by
    unfold Assembly.columnOf
    split <;> rfl
  unfold shownKinds
  simp only [columns]
  exact List.filter_append_perm _ _

end Content

/-! What elements say -/

/-- The texts that are not empty. -/
def present (texts : List String) : List String := texts.filter fun s => !s.isEmpty

theorem present_append (texts others : List String) :
    present (texts ++ others) = present texts ++ present others := List.filter_append ..

theorem present_cons (text : String) (texts : List String) :
    present (text :: texts) = present [text] ++ present texts := present_append [text] texts

theorem present_flatMap {α : Type} (f : α → List String) (items : List α) :
    present (items.flatMap f) = items.flatMap fun a => present (f a) := List.filter_flatMap ..

theorem toList_presentText (text : Option String) :
    (presentText text).toList = present text.toList := by
  cases text with
  | none => rfl
  | some s => cases empty : s.isEmpty <;> simp [presentText, present, Option.filter, empty]

/-- An empty text shows no lines. -/
theorem shownLines_present (texts : List String) :
    (present texts).flatMap Text.shownLines = texts.flatMap Text.shownLines := by
  induction texts with
  | nil => rfl
  | cons text texts ih =>
    rw [present_cons, List.flatMap_append, ih, List.flatMap_cons]
    cases empty : text.isEmpty with
    | false => simp [present, empty]
    | true =>
      obtain rfl : text = "" := String.isEmpty_iff.mp empty
      rfl

namespace Element

/-- The texts of elements that are not empty. -/
def texts (elements : List Element) : List String := seen ElementHead.shownText? elements

theorem texts_append (elements others : List Element) :
    texts (elements ++ others) = texts elements ++ texts others :=
  seen_append ElementHead.shownText? elements others

theorem texts_cons (element : Element) (elements : List Element) :
    texts (element :: elements) = texts [element] ++ texts elements :=
  texts_append [element] elements

theorem texts_node (head : ElementHead) (children : List Element) :
    texts [.node head children] = present head.text.toList ++ texts children := by
  rw [texts, seen_node, ElementHead.shownText?, toList_presentText]
  rfl

end Element

open Element (texts texts_append texts_cons texts_node)

theorem texts_boxElement (tag : String) (classes : List String) (children : List Element) :
    texts [boxElement tag classes children] = texts children := texts_node _ _

theorem texts_fieldElement (tag cls text : String) (path : List String) (type : ElementType) :
    texts (fieldElement tag cls text path type) = present [text] := by
  unfold fieldElement
  cases empty : text.isEmpty with
  | true => simp [texts, seen, walkAll, present, empty]
  | false => rw [if_neg (by simp), texts_node]; exact List.append_nil _

theorem texts_optionalField (tag cls : String) (text : Option String) (path : List String)
    (type : ElementType) : texts (optionalField tag cls text path type) = present text.toList := by
  rw [optionalField, texts_fieldElement]
  cases text <;> rfl

theorem mapIndexed_map {α β : Type} (g : α → β) (items : List α) :
    mapIndexed (fun _ a => g a) items = items.map g := by
  have indexed := List.map_map (g := g) (f := Prod.fst) (l := items.zipIdx)
  rw [List.zipIdx_map_fst] at indexed
  exact indexed.symm

theorem texts_flatten_mapIndexed {α : Type} {f : Nat → α → List Element} {g : α → List String}
    (each : ∀ i a, texts (f i a) = present (g a)) (items : List α) :
    texts (mapIndexed f items).flatten = present (items.flatMap g) := by
  rw [texts, seen_flatten, map_mapIndexed, present_flatMap, List.flatMap_def]
  have same (i : Nat) (a : α) : seen ElementHead.shownText? (f i a) = present (g a) := each i a
  simp only [same]
  rw [mapIndexed_map]

theorem texts_mapIndexed {α : Type} {f : Nat → α → Element} {g : α → List String}
    (each : ∀ i a, texts [f i a] = present (g a)) (items : List α) :
    texts (mapIndexed f items) = present (items.flatMap g) := by
  rw [← flatten_mapIndexed_singleton, texts_flatten_mapIndexed each]

namespace Assembly

variable (layout : LayoutTokens)

/-! Items -/

theorem texts_highlightElements (key highlights : List String) :
    texts (highlightElements layout key highlights)
      = present (layout.experienceFormat.texts highlights) := by
  unfold highlightElements
  cases layout.experienceFormat with
  | bullets =>
    cases highlights with
    | nil => rfl
    | cons first highlights =>
      have each (j : Nat) (text : String) : texts
          (fieldElement "li" "highlight" text (key ++ [Decimal.natText j]) .highlight)
            = present [text] := texts_fieldElement ..
      rw [if_neg (by simp), texts_node, texts_flatten_mapIndexed each, List.flatMap_singleton']
      rfl
  | paragraph =>
    cases highlights with
    | nil => rfl
    | cons first highlights => exact texts_fieldElement ..

theorem texts_itemHeader (main below beside : List Element) :
    texts [boxElement "div" ["item-header"]
      (boxElement "div" ["item-heading"] (main ++ below) :: beside)]
      = texts main ++ texts below ++ texts beside := by
  rw [texts_boxElement, texts_cons, texts_boxElement, texts_append]

theorem texts_experienceItem (i : Nat) (e : Experience) :
    texts [experienceItem layout i e] = present (e.texts layout.experienceFormat) := by
  rw [experienceItem, texts_node, texts_cons, texts_itemHeader, texts_highlightElements,
    Experience.texts, present_append]
  simp only [texts_fieldElement, ← present_append]
  rfl

theorem texts_educationItem (i : Nat) (e : Education) :
    texts [educationItem layout i e] = present e.texts := by
  rw [educationItem, texts_node, texts_cons, texts_itemHeader, texts_optionalField,
    Education.texts, present_append]
  simp only [texts_fieldElement, ← present_append]
  rfl

theorem texts_languageItem (i : Nat) (l : SpokenLanguage) :
    texts [languageItem i l] = present l.texts := by
  rw [languageItem, texts_node, texts_append, texts_fieldElement, texts_fieldElement,
    ← present_append]
  rfl

theorem texts_skillGroup (category : SkillCategory) (skills : List String) :
    texts (skillGroup layout category skills) = present (category.texts skills) := by
  unfold skillGroup SkillCategory.texts
  split
  · rfl
  · rw [texts_node, texts_cons, texts_boxElement, texts_node, present_cons category.title,
      texts_mapIndexed (g := fun skill => [skill]) fun i skill => ?_]
    · simp [present, texts, seen, walkAll]
    · rw [texts_node]
      exact List.append_nil _

/-! Sections and the header -/

theorem texts_sectionChildren (content : Content) (kind : SectionKind) :
    texts (sectionChildren content layout kind)
      = present (content.itemTexts layout.experienceFormat kind) := by
  cases kind with
  | summary => exact texts_optionalField ..
  | experience => exact texts_mapIndexed (texts_experienceItem layout) _
  | education => exact texts_mapIndexed (texts_educationItem layout) _
  | skills =>
    rw [sectionChildren, texts_boxElement, texts_append, texts_skillGroup, texts_skillGroup,
      ← present_append]
    rfl
  | languages =>
    rw [sectionChildren, texts_boxElement]
    exact texts_mapIndexed texts_languageItem _
  | certifications =>
    have each (i : Nat) (text : String) : texts (certificationItem i text) = present [text] :=
      texts_fieldElement ..
    rw [sectionChildren, texts_boxElement, texts_flatten_mapIndexed each, List.flatMap_singleton']
    rfl

theorem texts_sectionElement (content : Content) (kind : SectionKind) :
    texts [sectionElement kind (sectionChildren content layout kind)]
      = present (content.sectionTexts layout.experienceFormat kind) := by
  rw [sectionElement, texts_node, texts_cons, texts_node, texts_sectionChildren,
    Content.sectionTexts, present_cons]
  exact congrArg (· ++ _) (List.append_nil _)

theorem texts_photo (content : Content) : texts (photo content layout) = [] := by
  unfold photo
  cases Text.unlessEmpty content.avatarUrl with
  | none => rfl
  | some url => cases layout.showPhoto <;> rfl

theorem texts_contactBlock (content : Content) : texts (contactBlock content layout)
    = present (((content.contact.map Contact.items).getD []).map Prod.snd) := by
  have items (all : List (ContactField × String)) :
      texts (all.map (contactItem layout)) = present (all.map Prod.snd) := by
    induction all with
    | nil => rfl
    | cons item all ih =>
      have own : texts [contactItem layout item] = present [item.2] :=
        (seen_text_contactItem layout item).trans (toList_presentText (some item.2))
      rw [List.map_cons, texts_cons, own, ih, ← present_append]
      rfl
  unfold contactBlock
  dsimp only
  split
  · next none => rw [List.isEmpty_iff.mp none]; rfl
  · rw [texts_node, items]
    rfl

theorem texts_header (content : Content) :
    texts [header content layout] = present content.headerTexts := by
  have name : texts [nameElement content] = present [content.fullName] := by
    rw [nameElement, texts_node]
    exact List.append_nil _
  rw [header, texts_node, texts_append, texts_append, texts_photo, texts_boxElement, texts_cons,
    name, texts_optionalField, texts_contactBlock, ← present_append, List.nil_append,
    ← present_append]
  rfl

end Assembly

namespace DocumentTree

theorem texts_shownRoots_assemble (content : Content) (layout : LayoutTokens) :
    Element.texts (assemble content layout).shownRoots = present (content.shownTexts layout) := by
  have root (kind : SectionKind) : seen ElementHead.shownText?
      [Assembly.sectionElement kind (Assembly.sectionChildren content layout kind)]
        = present (content.sectionTexts layout.experienceFormat kind) :=
    Assembly.texts_sectionElement layout content kind
  have column (c : Column) : ((assemble content layout).sections.filter fun s => s.column = c)
      = ((layout.sectionOrder.filter (Assembly.hasContent content)).filter fun kind =>
          Assembly.columnOf layout kind = c).map fun kind =>
            { kind, column := Assembly.columnOf layout kind
              root :=
                Assembly.sectionElement kind (Assembly.sectionChildren content layout kind) } :=
    List.filter_map
  rw [shownRoots, texts_cons, column, column, ← List.map_append, List.map_map]
  have header : Element.texts [(assemble content layout).header] = present content.headerTexts :=
    Assembly.texts_header layout content
  rw [header, Content.shownTexts, present_append, present_flatMap, Element.texts, Element.seen_map]
  simp only [root, Function.comp_apply]
  rfl

/-- Ids do not change what is said. -/
theorem texts_shownRoots_mapHeads (d : DocumentTree) :
    Element.texts (d.mapHeads ElementHead.withPathId).shownRoots = Element.texts d.shownRoots := by
  have same : (d.mapHeads ElementHead.withPathId).shownRoots
      = Element.mapHeadsAll ElementHead.withPathId d.shownRoots := by
    simp only [Element.mapHeadsAll_eq_map, shownRoots, mapHeads, mapRoots, List.filter_map,
      List.map_cons, List.map_append, List.map_map]
    rfl
  rw [same, Element.texts, seen, Element.walkAll_mapHeadsAll, List.filterMap_map]
  rfl

end DocumentTree

/-! What a reader sees -/

/-- A tag whose element is neither silent nor aside, and not added by a mode either. -/
structure Tag.IsSeenThrough (tag : Tag) : Prop where
  name : tag.name ∉ ["script", "style", "head"] ++ Html.asideNames
  id : tag.attributes.lookup "id" = none
  unprotected : tag.attributes.lookup "data-protection" = none

namespace Page

/-- The lines that are shown of trees, without what a mode adds. -/
def shownIn (htmls : List Html) : List String := linesIn (withoutLayers htmls)

/-- Of an element that is seen through, a reader sees what is in it. -/
theorem shownIn_element {tag : Tag} (h : tag.IsSeenThrough) (children : List Html) :
    shownIn [.element tag children] = shownIn children := by
  have name := h.name
  simp only [List.mem_append, List.mem_cons, List.not_mem_nil, or_false, not_or] at name
  obtain ⟨⟨script, style, head⟩, aside⟩ := name
  have layer : isModeLayer (.element tag children) = false := by
    simp [isModeLayer, Html.isNamed, Html.attribute?, h.id, h.unprotected, script]
  have shown (children : List Html) : Inspection.isSilent (.element tag children) = false := by
    simp [Inspection.isSilent, Html.isNamed, style, head]
  have left : withoutLayers [.element tag children] = [.element tag (withoutLayers children)] := by
    rw [withoutLayers, Html.withoutAll, layer, if_neg (by decide)]
    rfl
  rw [shownIn, left]
  exact linesIn_element (shown _) (by simpa using aside)

theorem isModeless_shownIn : IsModeless shownIn := isModeless_lines

theorem shownIn_box (cls : String) (parts : List (List Html)) :
    shownIn (box cls parts) = parts.flatMap shownIn := by
  have through : Tag.IsSeenThrough { name := "div", attributes := [("class", cls)] } :=
    ⟨by simp [Html.asideNames], lookup_eq_none (by simp), lookup_eq_none (by simp)⟩
  exact (shownIn_element through _).trans (isModeless_shownIn.onLines parts)

/-- What a page says is in its wrapper, whatever its mode adds. -/
theorem isInnerView_shownIn : IsInnerView shownIn where
  toIsBoxView := ⟨isModeless_shownIn.toIsView, shownIn_box⟩
  inside p := by
    have html : Tag.IsSeenThrough { name := "html", attributes := [("lang", "en")] } :=
      ⟨by decide, by decide, by decide⟩
    have body : Tag.IsSeenThrough { name := "body" } := ⟨by decide, rfl, rfl⟩
    have head : shownIn [.paired "head" [] (onLines p.headParts)] = [] := by
      have frame : ("head", []) ∈ frames := by simp [frames]
      rw [shownIn, withoutLayers_frame frame, linesIn_frame frame, if_pos rfl]
    have inner : shownIn [.paired "body" [] (onLines p.bodyParts)] = shownIn p.wrapper :=
      (shownIn_element body _).trans
        ((isModeless_shownIn.onLines _).trans (isModeless_shownIn.view_bodyParts p))
    have whole : shownIn p.html = shownIn (onLines [[.paired "head" [] (onLines p.headParts)],
        [.paired "body" [] (onLines p.bodyParts)]]) := shownIn_element html _
    rw [whole, isModeless_shownIn.onLines, List.flatMap_cons, List.flatMap_singleton, head, inner,
      List.nil_append]

end Page

namespace Element

theorem shownIn_textHtml (head : ElementHead) :
    Page.shownIn head.textHtml = head.text.toList.flatMap Text.shownLines := by
  unfold ElementHead.textHtml
  cases head.text with
  | none => rfl
  | some s =>
    dsimp only
    split
    · next empty =>
      obtain rfl : s = "" := String.isEmpty_iff.mp empty
      rfl
    · rfl

mutual

/-- Of an element that is seen through all the way down, a reader sees the lines of its texts. -/
theorem shownIn_read {element : Element} (h : ∀ head ∈ element.walk, head.readTag.IsSeenThrough) :
    Page.shownIn [element.read] = (texts [element]).flatMap Text.shownLines := by
  match element with
  | .node head children =>
    have below : ∀ other ∈ walkAll children, other.readTag.IsSeenThrough := fun other mem =>
      h other (by simp [walk, mem])
    rw [read, Page.shownIn_element (h head (by simp [walk])), Page.isModeless_shownIn.append,
      shownIn_textHtml, shownIn_readAll below, texts_node, List.flatMap_append, shownLines_present]

theorem shownIn_readAll {elements : List Element}
    (h : ∀ head ∈ walkAll elements, head.readTag.IsSeenThrough) :
    Page.shownIn (readAll elements) = (texts elements).flatMap Text.shownLines := by
  match elements with
  | [] => rfl
  | element :: rest =>
    have first : ∀ head ∈ element.walk, head.readTag.IsSeenThrough := fun head mem =>
      h head (by simp [walkAll, mem])
    have others : ∀ head ∈ walkAll rest, head.readTag.IsSeenThrough := fun head mem =>
      h head (by simp [walkAll, mem])
    rw [readAll, ← List.singleton_append, Page.isModeless_shownIn.append, shownIn_read first,
      shownIn_readAll others, texts_cons element rest, List.flatMap_append]

end

end Element

/-- A head as assembly makes it is seen through, whatever identifies it. -/
theorem Assembly.IsMade.isSeenThrough {content : Content} {h other : ElementHead}
    (made : IsMade content h) (alike : h.IsAlike other) (writable : other.IsWritable) :
    other.readTag.IsSeenThrough := by
  have tags : ∀ tag ∈ layoutTags ++ drawnTags,
      tag ∉ ["script", "style", "head"] ++ Html.asideNames := by decide
  have names : ∀ name ∈ ownNames, Text.lower name ∉ ["id", "data-protection"] := by decide
  have found := ElementHead.isFoundIn_readTag writable
  have none (name : String) (mem : name ∈ ["id", "data-protection"])
      (other : name ∉ ElementHead.reservedNames) :
      (h.attributes.map ElementHead.lowered).lookup name = none := by
    refine lookup_eq_none fun own => ?_
    simp only [List.map_map, List.mem_map] at own
    obtain ⟨pair, inside, rfl⟩ := own
    exact names pair.1 (made.own pair inside) mem
  refine ⟨?_, ?_, ?_⟩
  · rw [found.name, alike.tag]
    exact tags h.tag made.tag
  · rw [found.own "id" (by decide), alike.attributes]
    exact none "id" (by simp) (by decide)
  · rw [found.own "data-protection" (by decide), alike.attributes]
    exact none "data-protection" (by simp) (by decide)

/-! Documents -/

/-- Without overrides, a tree is only given its ids. -/
theorem compiledTree_of_isEmpty {content : Content} {layout : LayoutTokens}
    {overrides : OverrideSet} {tree : DocumentTree} (none : overrides.isEmpty)
    (h : compiledTree content layout overrides = .ok tree) :
    tree = (DocumentTree.assemble content layout).mapHeads ElementHead.withPathId := by
  obtain ⟨-, identified, given, rfl⟩ := compiledTree_eq_ok_iff.mp h
  obtain rfl := DocumentTree.eq_of_identify given
  rw [DocumentTree.override, if_pos none]

theorem shownIn_decorations (decorations : List Decoration) :
    Page.shownIn ((Decoration.layer decorations).map Html.asRead) = [] := by
  have left : ∀ html ∈ Html.withoutAll Inspection.isSilent
      (Page.withoutLayers ((Decoration.layer decorations).map Html.asRead)),
      html.texts false = [] := by
    intro html mem
    obtain ⟨shown, left, rfl⟩ := Html.exists_of_mem_withoutAll mem
    obtain ⟨drawn, inside, rfl⟩ := Html.exists_of_mem_withoutAll left
    obtain ⟨own, among, rfl⟩ := List.mem_map.mp inside
    exact (((Decoration.isWordless_layer decorations own among).asRead.without _).without _).texts _
  rw [Page.shownIn, Page.linesIn, Html.textsAll_eq_nil left]
  rfl

namespace DocumentTree

/-- What a reader sees of the page of a tree are the texts of the tree. -/
theorem shownIn_asRead_page {d : DocumentTree} (writable : Element.AreWritable d.roots)
    (through : ∀ head ∈ walkAll d.roots, head.readTag.IsSeenThrough) (tokens : StyleTokens)
    (layer : ModeLayer) (title : String) :
    Page.shownIn (d.page tokens layer title).asRead.html
      = (Element.texts d.shownRoots).flatMap Text.shownLines := by
  have each : ∀ root ∈ d.shownRoots,
      Page.shownIn [root.read] = (Element.texts [root]).flatMap Text.shownLines := fun root mem =>
    Element.shownIn_read fun head inside =>
      through head (Element.walk_subset_walkAll (mem_roots_of_mem_shownRoots mem) inside)
  rw [view_asRead_page Page.isInnerView_shownIn writable tokens layer title
    (shownIn_decorations _), List.flatMap_congr each, ← List.flatMap_assoc, Element.texts,
    seen_eq_flatMap]
  rfl

theorem isSeenThrough_of_mem {content : Content} {layout : LayoutTokens}
    (writable : Element.AreWritable
      ((assemble content layout).mapHeads ElementHead.withPathId).roots) :
    ∀ head ∈ ((assemble content layout).mapHeads ElementHead.withPathId).walk,
      head.readTag.IsSeenThrough := by
  intro head mem
  obtain ⟨root, whole, inside⟩ := Element.exists_of_mem_walkAll mem
  rw [walk_mapHeads] at mem
  obtain ⟨own, among, rfl⟩ := List.mem_map.mp mem
  exact (areMade_assemble content layout own among).isSeenThrough
    (ElementHead.isAlike_withPathId own) ((writable root whole).of_mem_walk _ inside)

end DocumentTree

/-- What a reader sees of a document without overrides. -/
theorem visibleLines_compile {content : Content} {style : Json} {tokens : StyleTokens}
    {overrides : OverrideSet} {options : RenderOptions} {document : String}
    (resolved : StyleTokens.ofJson style = .ok tokens) (none : overrides.isEmpty)
    (h : compile content (StyleTokens.ofJson style) overrides options = .ok document) :
    Inspection.visibleLines document
      = (content.shownTexts tokens.layout).flatMap Text.shownLines := by
  obtain ⟨own, tree, layer, resolution, compiled, mode, rfl⟩ := exists_page_of_compile h
  obtain rfl : tokens = own := Except.ok.inj (resolved.symm.trans resolution)
  have writable := areWritable_compiledTree compiled
  have readable := DocumentTree.isReadable_page writable resolved mode (pageTitle content)
  obtain rfl := compiledTree_of_isEmpty none compiled
  have shown := DocumentTree.shownIn_asRead_page writable
    (DocumentTree.isSeenThrough_of_mem writable) tokens layer (pageTitle content)
  rw [DocumentTree.texts_shownRoots_mapHeads, DocumentTree.texts_shownRoots_assemble,
    shownLines_present] at shown
  rw [Inspection.visibleLines_eq, Inspection.layout, Page.parse_text readable]
  exact shown

/-- A section that is left out has nothing to say. -/
theorem Content.itemTexts_of_not_hasContent {content : Content} (tidy : content.IsTidy)
    {kind : SectionKind} (none : Assembly.hasContent content kind = false) (format : ExperienceFormat) :
    content.itemTexts format kind = [] := by
  cases kind with
  | summary =>
    rw [Assembly.hasContent, Text.unlessEmpty_eq_self tidy.summary] at none
    simpa [itemTexts] using none
  | experience => simp_all [Assembly.hasContent, itemTexts]
  | education => simp_all [Assembly.hasContent, itemTexts]
  | skills =>
    simp_all [Assembly.hasContent, itemTexts, Skills.isEmpty, Assembly.SkillCategory.texts]
  | languages => simp_all [Assembly.hasContent, itemTexts]
  | certifications => simpa [Assembly.hasContent, itemTexts] using none

/-- Nothing is lost and nothing is said twice. Without overrides there is a document in every mode,
unless a preview is to be protected by a blank text or by one without a UTF-8 form, and its text
consists of the lines of what the content says: the header, then each section with something in it
once, those of the sidebar first. A section that is left out has nothing to say. -/
theorem compile_says_everything_once {value style : Json} {content : Content} {tokens : StyleTokens}
    {overrides : OverrideSet} (read : Content.ofJson value = .ok content)
    (named : Text.isBlankText content.fullName = false)
    (resolved : StyleTokens.ofJson style = .ok tokens) (none : overrides.isEmpty) :
    (∀ options : RenderOptions, options.isUnmarked = false → options.isUnencodable = false →
        ∃ document, compile content (StyleTokens.ofJson style) overrides options = .ok document)
      ∧ (∀ options document,
        compile content (StyleTokens.ofJson style) overrides options = .ok document →
          Inspection.check document = .ok ()
          ∧ Inspection.visibleText document
            = "\n".intercalate ((content.shownTexts tokens.layout).flatMap Text.shownLines))
      ∧ (content.shownKinds tokens.layout).Perm
        (SectionKind.all.filter (Assembly.hasContent content))
      ∧ ∀ kind ∉ content.shownKinds tokens.layout,
        content.itemTexts tokens.layout.experienceFormat kind = [] := by
  have anonymous : ∀ o ∈ overrides.entries, o.id.isText := by
    rw [List.isEmpty_iff.mp none]
    simp
  obtain ⟨distinct, complete⟩ := StyleTokens.sectionOrder_complete resolved
  have every : tokens.layout.sectionOrder.Perm SectionKind.all :=
    (List.perm_ext_iff_of_nodup distinct (by decide)).mpr fun kind =>
      iff_of_true (complete kind) (by cases kind <;> decide)
  refine ⟨fun options marked whole => ?_,
    fun options document compiled => ⟨check_compile compiled, ?_⟩,
    (content.shownKinds_perm tokens.layout).trans (every.filter _), fun kind left => ?_⟩
  · obtain ⟨tree, built⟩ := exists_compiledTree read resolved anonymous
    obtain ⟨layer, mode⟩ := ModeLayer.exists_of_settled marked whole
    exact ⟨_, compile_of_compiledTree named resolved built mode⟩
  · rw [Inspection.visibleText, visibleLines_compile resolved none compiled]
  · rw [(content.shownKinds_perm tokens.layout).mem_iff, List.mem_filter] at left
    exact Content.itemTexts_of_not_hasContent (Content.isTidy_ofJson read)
      (by simpa [complete kind] using left) _

/-- A position whose title has a line end in it, with skills for a sidebar. -/
def guildJson : Json :=
  .object [("fullName", .string "Ada"), ("contact", .object [("email", .string "ada@example.org")]),
    ("experience", .list [.object [("title", .string "Lead\u2028Builder"),
      ("company", .string "Guild"), ("location", .string "London"),
      ("highlights", .list [.string "Built an engine.", .string "Sold it."])]]),
    ("skills", .object [("technical", .list [.string "Lean"])])]

/-- A style with a sidebar, icons and highlights in one text. -/
def guildStyle : Json :=
  .object [("layout", .string "sidebar-left"), ("useIcons", .bool true),
    ("experienceDescriptionFormat", .string "paragraph")]

def guildLines : Checked (List String) := do
  let content ← Content.ofJson guildJson
  let tokens ← StyleTokens.ofJson guildStyle
  return (content.shownTexts tokens.layout).flatMap Text.shownLines

theorem compile_says_everything_once_guild :
    ∃ content document, Content.ofJson guildJson = .ok content
      ∧ Text.isBlankText content.fullName = false ∧ OverrideSet.empty.isEmpty
      ∧ compile content (StyleTokens.ofJson guildStyle) .empty { mode := .previewProtected }
        = .ok document
      ∧ Inspection.visibleText document = "Ada\nada@example.org\nSkills\nTechnical\nLean\n"
        ++ "Experience\nLead\nBuilder\nGuild, London\nBuilt an engine. Sold it." := by
  have given : guildLines = .ok ["Ada", "ada@example.org", "Skills", "Technical", "Lean",
      "Experience", "Lead", "Builder", "Guild, London", "Built an engine. Sold it."] :=
    Checked.eq_ok_of_toOption (by decide +kernel)
  have called : (Content.ofJson guildJson).map (fun content => content.fullName) = .ok "Ada" :=
    Checked.eq_ok_of_toOption (by decide +kernel)
  obtain ⟨content, read, given⟩ := Checked.bind_eq_ok.mp given
  obtain ⟨tokens, resolved, given⟩ := Checked.bind_eq_ok.mp given
  rw [read] at called
  have name : content.fullName = "Ada" := Except.ok.inj called
  have named : Text.isBlankText content.fullName = false := by
    rw [name]
    decide
  have none : OverrideSet.empty.isEmpty := rfl
  obtain ⟨compilable, shows, -⟩ := compile_says_everything_once read named resolved none
  obtain ⟨document, compiled⟩ := compilable { mode := .previewProtected } (by decide) (by decide)
  refine ⟨content, document, read, named, none, compiled, ?_⟩
  rw [(shows _ _ compiled).2, Except.ok.inj given]
  decide

end Vitae
