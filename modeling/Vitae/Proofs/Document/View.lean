import Vitae.Document.Page
import Vitae.Proofs.Inspection

/-!
Views of a page. The ids of its elements are found in the trees it was given and nowhere else, and a
view that does not see the parts of a mode is the same in every mode.
-/

namespace Vitae

open Html (attributeValuesAll tagsWithAll)

namespace Page

/-- A view of trees that looks at one after another and does not see the ends of lines. -/
structure IsView {α : Type} (view : List Html → List α) : Prop where
  append : ∀ htmls others, view (htmls ++ others) = view htmls ++ view others
  lineEnd : view [lineEnd] = []

section

variable {α : Type} {view : List Html → List α}

theorem IsView.nil (h : IsView view) : view [] = [] := by
  have twice := h.append [] []
  rw [List.append_nil] at twice
  exact List.self_eq_append_right.mp twice

theorem IsView.parts (h : IsView view) (parts : List (List Html)) :
    view (parts.flatMap fun part => part ++ [Page.lineEnd]) = parts.flatMap view := by
  induction parts with
  | nil => exact h.nil
  | cons part parts ih =>
    rw [List.flatMap_cons, h.append, h.append, h.lineEnd, ih, List.append_nil, List.flatMap_cons]

theorem IsView.onLines (h : IsView view) (parts : List (List Html)) :
    view (onLines parts) = parts.flatMap view := by
  have first := h.append [Page.lineEnd] (parts.flatMap fun part => part ++ [Page.lineEnd])
  rw [h.lineEnd, h.parts, List.nil_append] at first
  exact first

theorem flatMap_onlyIf (view : List Html → List α) (condition : Bool) (part : List Html) :
    (onlyIf condition part).flatMap view = if condition then view part else [] := by
  cases condition <;> simp [onlyIf]

/-- A view through the boxes of a page. -/
structure IsBoxView {α : Type} (view : List Html → List α) : Prop extends IsView view where
  box : ∀ cls parts, view (Page.box cls parts) = parts.flatMap view

theorem IsBoxView.wrapper (h : IsBoxView view) (p : Page) :
    view p.wrapper = view p.decorations ++ view p.header ++ p.sidebar.flatMap view
      ++ p.main.flatMap view := by
  have sidebar : (if !p.sidebar.isEmpty then p.sidebar.flatMap view else [])
      = p.sidebar.flatMap view := by
    cases p.sidebar <;> rfl
  have decorations : (if !p.decorations.isEmpty then view p.decorations else [])
      = view p.decorations := by
    cases p.decorations with
    | nil => exact h.nil.symm
    | cons html decorations => rfl
  have columns : view p.columns = p.sidebar.flatMap view ++ p.main.flatMap view := by
    rw [columns, h.box, List.flatMap_append, flatMap_onlyIf, h.box, sidebar,
      List.flatMap_singleton, h.box]
  have container : [p.header, p.columns].flatMap view
      = view p.header ++ (p.sidebar.flatMap view ++ p.main.flatMap view) := by
    rw [List.flatMap_cons, List.flatMap_singleton, columns]
  rw [Page.wrapper, h.box, List.flatMap_append, flatMap_onlyIf, decorations,
    List.flatMap_singleton, h.box, container, List.append_assoc, List.append_assoc]

/-- A view through the frames of a page as well, of what its wrapper holds. -/
structure IsInnerView {α : Type} (view : List Html → List α) : Prop extends IsBoxView view where
  inside : ∀ p : Page, view p.html = view p.wrapper

end

/-! Attributes -/

section

variable {name : String}

theorem isView_tagsWithAll (name : String) : IsView (tagsWithAll name) where
  append := Html.tagsWithAll_append name
  lineEnd := rfl

/-- Of an element without the attribute, only what is in it is found. -/
theorem tagsWithAll_element {tag : Tag} (none : tag.attributes.lookup name = none)
    (children : List Html) :
    tagsWithAll name [.element tag children] = tagsWithAll name children := by
  simp [tagsWithAll, Html.tagsWith, none]

theorem tagsWithAll_box (apart : name ≠ "class") (cls : String) (parts : List (List Html)) :
    tagsWithAll name (box cls parts) = parts.flatMap (tagsWithAll name) := by
  have none : [("class", cls)].lookup name = none := lookup_eq_none (by simpa using apart)
  exact (tagsWithAll_element none _).trans ((isView_tagsWithAll name).onLines parts)

/-- The attributes of what stands in the head of a page. -/
def headNames : List String := ["charset", "name", "content", "href", "rel", "id"]

theorem tagsWithAll_styleBlock (apart : name ∉ headNames) (id css : String) :
    tagsWithAll name (styleBlock id css) = [] := by
  have none : [("id", id)].lookup name = none :=
    lookup_eq_none fun mem => apart (by simp [headNames, List.mem_singleton.mp mem])
  exact tagsWithAll_element none _

theorem tagsWithAll_headParts (apart : name ∉ headNames) (p : Page) :
    p.headParts.flatMap (tagsWithAll name) = [] := by
  have void (tag : String) (attributes : List (String × String))
      (known : attributes.map Prod.fst ⊆ headNames) :
      tagsWithAll name [.void tag attributes] = [] :=
    tagsWithAll_element (lookup_eq_none fun mem => apart (known mem)) []
  have link (url : String) := void "link" [("href", url), ("rel", "stylesheet")]
    (by simp [headNames])
  have title : tagsWithAll name
      [.paired "title" [] (if p.title.isEmpty then [] else [.text p.title])] = [] := by
    rw [Html.paired, tagsWithAll_element rfl]
    split <;> rfl
  have charset := void "meta" [("charset", "UTF-8")] (by decide)
  have viewport := void "meta" [("name", "viewport"),
    ("content", "width=device-width, initial-scale=1.0")] (by decide)
  simp only [headParts, optionalStyle, List.flatMap_append, List.flatMap_cons, List.flatMap_nil,
    List.flatMap_map, flatMap_onlyIf, tagsWithAll_styleBlock apart, link, title, charset, viewport]
  simp

/-- What has such an attribute in a page is in its body. -/
theorem tagsWithAll_html (apart : name ∉ headNames) (other : name ≠ "lang") (p : Page) :
    tagsWithAll name p.html = p.bodyParts.flatMap (tagsWithAll name) := by
  have lines := (isView_tagsWithAll name).onLines
  have lang : [("lang", "en")].lookup name = none := lookup_eq_none (by simpa using other)
  have head : tagsWithAll name [.paired "head" [] (Page.onLines p.headParts)] = [] :=
    (tagsWithAll_element rfl _).trans ((lines _).trans (tagsWithAll_headParts apart p))
  have body : tagsWithAll name [.paired "body" [] (Page.onLines p.bodyParts)] = _ :=
    (tagsWithAll_element rfl _).trans (lines _)
  have whole : tagsWithAll name p.html
      = tagsWithAll name (Page.onLines [[.paired "head" [] (Page.onLines p.headParts)],
        [.paired "body" [] (Page.onLines p.bodyParts)]]) := tagsWithAll_element lang _
  rw [whole, lines, List.flatMap_cons, List.flatMap_singleton, head, body, List.nil_append]

end

/-! Ids -/

/-- The tags of the elements in trees that have ids. -/
def namedIn (htmls : List Html) : List Tag := tagsWithAll "data-element-id" htmls

/-- The ids of the elements in trees. -/
def idsIn (htmls : List Html) : List String := attributeValuesAll "data-element-id" htmls

theorem idsIn_eq (htmls : List Html) : idsIn htmls
    = (namedIn htmls).filterMap fun tag => tag.attributes.lookup "data-element-id" :=
  Html.attributeValuesAll_eq _ htmls

theorem isView_namedIn : IsView namedIn := isView_tagsWithAll _

theorem namedIn_styleBlock (id css : String) : namedIn (styleBlock id css) = [] :=
  tagsWithAll_styleBlock (by decide) id css

theorem namedIn_overlay (tile : String) : namedIn (overlay tile) = [] :=
  tagsWithAll_element (lookup_eq_none (by simp)) _

theorem namedIn_scriptBlock (script : PageScript) : namedIn (scriptBlock script) = [] :=
  tagsWithAll_element (lookup_eq_none (by split <;> simp)) _

theorem namedIn_layers (p : Page) :
    (onlyIf (!p.tile.isEmpty) (overlay p.tile) ++ p.scripts.map scriptBlock).flatMap namedIn
      = [] := by
  simp [List.flatMap_append, flatMap_onlyIf, namedIn_overlay, namedIn_scriptBlock, List.flatMap_map]

/-- What has an id in a page is in its wrapper. -/
theorem isInnerView_namedIn : IsInnerView namedIn where
  toIsBoxView := ⟨isView_namedIn, tagsWithAll_box (by decide)⟩
  inside p := by
    have body : namedIn p.html = p.bodyParts.flatMap namedIn :=
      tagsWithAll_html (by decide) (by decide) p
    rw [body, bodyParts, List.cons_append, List.flatMap_cons, namedIn_layers, List.append_nil]

/-! What a mode adds -/

/-- The elements around the parts of a page. -/
def frames : List (String × List (String × String)) :=
  [("html", [("lang", "en")]), ("head", []), ("body", [])]

/-- A view that does not see what a mode adds, not even inside the elements of the page. -/
structure IsModeless {α : Type} (view : List Html → List α) : Prop extends IsView view where
  editSheet : ∀ css, view (styleBlock "cv-edit-styles" css) = []
  protectionSheet : ∀ css, view (styleBlock "cv-protection-styles" css) = []
  overlay : ∀ tile, view (overlay tile) = []
  script : ∀ script, view (scriptBlock script) = []
  inside : ∀ frame ∈ frames, ∀ children others, view children = view others →
    view [.paired frame.1 frame.2 children] = view [.paired frame.1 frame.2 others]

/-- A page without what its mode adds. -/
def plain (p : Page) : Page :=
  { p with editSheet := "", protectionSheet := "", tile := "", scripts := [] }

variable {α : Type} {view : List Html → List α}

theorem IsModeless.view_headParts (h : IsModeless view) (p : Page) :
    p.headParts.flatMap view = p.plain.headParts.flatMap view := by
  have sheet (css : String) : (optionalStyle "cv-edit-styles" css).flatMap view = [] := by
    rw [optionalStyle, flatMap_onlyIf, h.editSheet, ite_self]
  have sheet' (css : String) : (optionalStyle "cv-protection-styles" css).flatMap view = [] := by
    rw [optionalStyle, flatMap_onlyIf, h.protectionSheet, ite_self]
  simp only [headParts, List.flatMap_append, sheet, sheet']
  rfl

theorem IsModeless.layers (h : IsModeless view) (tile : String) (scripts : List PageScript) :
    (onlyIf (!tile.isEmpty) (Page.overlay tile) ++ scripts.map scriptBlock).flatMap view = [] := by
  simp [List.flatMap_append, flatMap_onlyIf, h.overlay, List.flatMap_map, h.script]

theorem IsModeless.view_bodyParts (h : IsModeless view) (p : Page) :
    p.bodyParts.flatMap view = view p.wrapper := by
  rw [bodyParts, List.cons_append, List.flatMap_cons, h.layers, List.append_nil]

/-- Pages that differ in what their modes add look the same to such a view. -/
theorem IsModeless.view_html (h : IsModeless view) (p : Page) :
    view p.html = view p.plain.html := by
  have head := h.inside ("head", []) (by simp [frames]) (Page.onLines p.headParts)
    (Page.onLines p.plain.headParts) (by rw [h.onLines, h.onLines, h.view_headParts])
  have body := h.inside ("body", []) (by simp [frames]) (Page.onLines p.bodyParts)
    (Page.onLines p.plain.bodyParts)
    (by rw [h.onLines, h.onLines, h.view_bodyParts, h.view_bodyParts]; rfl)
  have whole := h.inside ("html", [("lang", "en")]) (by simp [frames])
    (Page.onLines [[.paired "head" [] (Page.onLines p.headParts)],
      [.paired "body" [] (Page.onLines p.bodyParts)]])
    (Page.onLines [[.paired "head" [] (Page.onLines p.plain.headParts)],
      [.paired "body" [] (Page.onLines p.plain.bodyParts)]])
    (by simp only [h.onLines, List.flatMap_cons, List.flatMap_nil, head, body])
  have parts (q : Page) : q.html = [.bracketed .doctype "html", Page.lineEnd]
      ++ [.paired "html" [("lang", "en")]
        (Page.onLines [[.paired "head" [] (Page.onLines q.headParts)],
          [.paired "body" [] (Page.onLines q.bodyParts)]])] := rfl
  rw [parts, parts, h.append, h.append, whole]

end Page

end Vitae
