import Vitae.Decoration
import Vitae.Proofs.Inspection

/-!
Decorations can be written and read back, whatever they are scattered like, and neither an element
of a document nor what protects it is found among them.
-/

namespace Vitae

open Html (Writable)

/-- Names of attributes that the elements of a document and what protects it are found by. -/
def foundNames : List String := ["data-element-id", "data-protection"]

/-- Names of attributes that nothing is found by. -/
def isDrawingName (name : String) : Bool :=
  Token.isAttributeName name && !foundNames.contains (Text.lower name)

theorem isAttributeName_of_isDrawingName {names : List String} (h : names.all isDrawingName) :
    names.all Token.isAttributeName := by
  simp only [List.all_eq_true, isDrawingName, Bool.and_eq_true] at h ⊢
  exact fun name mem => (h name mem).1

/-- An element whose attributes and children are not those that something is found by. -/
theorem avoids_element {found : String} (known : found ∈ foundNames) {tag : Tag}
    {children : List Html} (names : (tag.attributes.map Prod.fst).all isDrawingName)
    (each : ∀ child ∈ children, Html.avoids found child) :
    Html.avoids found (.element tag children) := by
  simp only [List.all_eq_true, isDrawingName, Bool.and_eq_true, List.mem_map, Bool.not_eq_true',
    List.contains_eq_mem, decide_eq_false_iff_not] at names
  simp only [Html.avoids, Bool.and_eq_true, List.all_eq_true, bne_iff_ne]
  refine ⟨fun pair mem same => ?_, Html.avoidsAll_iff.mpr each⟩
  exact (names pair.1 ⟨pair, mem, rfl⟩).2 (same ▸ known)

namespace Shape

/-- A drawing of elements that are closed in themselves. -/
def IsDrawing (htmls : List Html) : Prop :=
  ∀ html ∈ htmls, ∃ name attributes, html = .selfClosed name attributes
    ∧ Html.isOrdinary name ∧ (attributes.map Prod.fst).all isDrawingName

theorem isDrawing_singleton {name : String} {attributes : List (String × String)}
    (ordinary : Html.isOrdinary name)
    (names : (attributes.map Prod.fst).all isDrawingName) :
    IsDrawing [.selfClosed name attributes] := by
  intro html mem
  exact ⟨name, attributes, by simpa using mem, ordinary, names⟩

/-- A paint is a list of attributes with proper names. -/
structure IsPaint (paint : List (String × String)) : Prop where
  names : (paint.map Prod.fst).all isDrawingName

theorem isPaint_filled (color opacity : String) : IsPaint (filled color opacity) :=
  ⟨(by decide : ["fill", "fill-opacity"].all isDrawingName)⟩

theorem isPaint_stroked (color opacity : String) : IsPaint (stroked color opacity) :=
  ⟨(by decide : ["fill", "stroke", "stroke-width", "stroke-opacity"].all isDrawingName)⟩

variable {paint : List (String × String)}

theorem IsPaint.append (h : IsPaint paint) (attributes : List (String × String))
    (names : (attributes.map Prod.fst).all isDrawingName) :
    ((attributes ++ paint).map Prod.fst).all isDrawingName := by
  rw [List.map_append, List.all_append, names, h.names]
  rfl

theorem isDrawing_circleAt (x y radius : Decimal.Binary64) (h : IsPaint paint) :
    IsDrawing [circleAt x y radius paint] :=
  isDrawing_singleton (by decide)
    (h.append [("cx", _), ("cy", _), ("r", _)] (by decide : ["cx", "cy", "r"].all _))

theorem isDrawing_polygon (points : List (Decimal.Binary64 × Decimal.Binary64))
    (h : IsPaint paint) : IsDrawing [polygon points paint] :=
  isDrawing_singleton (by decide) (h.append [("points", _)] (by decide : ["points"].all _))

theorem isDrawing_path (steps : String) (h : IsPaint paint) : IsDrawing [path steps paint] :=
  isDrawing_singleton (by decide) (h.append [("d", _)] (by decide : ["d"].all _))

theorem isDrawing_draw (shape : Shape) (extent : Extent) (color opacity : String) :
    IsDrawing (shape.draw extent color opacity) := by
  have fill := isPaint_filled color opacity
  have stroke := isPaint_stroked color opacity
  cases shape with
  | circle => exact isDrawing_circleAt _ _ _ fill
  | ring => exact isDrawing_circleAt _ _ _ stroke
  | square =>
    exact isDrawing_singleton (by decide)
      (fill.append [("width", _), ("height", _)] (by decide : ["width", "height"].all _))
  | diamond => exact isDrawing_polygon _ fill
  | triangle => exact isDrawing_polygon _ fill
  | hexagon => exact isDrawing_polygon _ fill
  | dots =>
    intro html mem
    obtain ⟨⟨x, y⟩, -, rfl⟩ := List.mem_map.mp mem
    exact isDrawing_circleAt x y _ fill _ (List.mem_singleton.mpr rfl)
  | wave => exact isDrawing_path _ stroke
  | arc => exact isDrawing_path _ stroke
  | cross => exact isDrawing_path _ fill
  | star => exact isDrawing_polygon _ fill

theorem IsDrawing.writable {htmls : List Html} (h : IsDrawing htmls) :
    ∀ html ∈ htmls, Writable html := by
  intro html mem
  obtain ⟨name, attributes, rfl, ordinary, names⟩ := h html mem
  exact Html.writable_selfClosed ordinary (isAttributeName_of_isDrawingName names)

theorem IsDrawing.isWordless {htmls : List Html} (h : IsDrawing htmls) :
    ∀ html ∈ htmls, html.IsWordless := by
  intro html mem
  obtain ⟨name, attributes, rfl, -⟩ := h html mem
  exact .element _ _ (by simp)

theorem IsDrawing.avoids {htmls : List Html} (h : IsDrawing htmls) {found : String}
    (known : found ∈ foundNames) : ∀ html ∈ htmls, Html.avoids found html := by
  intro html mem
  obtain ⟨name, attributes, rfl, -, names⟩ := h html mem
  exact avoids_element known names (by simp)

end Shape

namespace Decoration

theorem writable_html (d : Decoration) : Writable d.html :=
  Html.writable_paired (by decide)
    (by decide : ["class", "style", "viewBox", "xmlns"].all Token.isAttributeName)
    (Shape.isDrawing_draw _ _ _ _).writable

theorem avoids_html {found : String} (known : found ∈ foundNames) (d : Decoration) :
    Html.avoids found d.html :=
  avoids_element known (by decide : ["class", "style", "viewBox", "xmlns"].all isDrawingName)
    ((Shape.isDrawing_draw _ _ _ _).avoids known)

theorem writable_layer (decorations : List Decoration) :
    ∀ html ∈ layer decorations, html.isElement ∧ Writable html := by
  intro html mem
  unfold layer at mem
  split at mem
  · simp at mem
  · obtain rfl : html = _ := by simpa using mem
    refine ⟨rfl, Html.writable_paired (by decide)
      (by decide : ["class", "aria-hidden"].all Token.isAttributeName) ?_⟩
    intro child inside
    obtain ⟨d, -, rfl⟩ := List.mem_map.mp inside
    exact writable_html d

theorem isWordless_html (d : Decoration) : d.html.IsWordless :=
  .element _ _ (Shape.isDrawing_draw _ _ _ _).isWordless

theorem isWordless_layer (decorations : List Decoration) :
    ∀ html ∈ layer decorations, html.IsWordless := by
  intro html mem
  unfold layer at mem
  split at mem
  · simp at mem
  · obtain rfl : html = _ := by simpa using mem
    refine .element _ _ fun child inside => ?_
    obtain ⟨d, -, rfl⟩ := List.mem_map.mp inside
    exact isWordless_html d

theorem avoidsAll_layer {found : String} (known : found ∈ foundNames)
    (decorations : List Decoration) : Html.avoidsAll found (layer decorations) := by
  rw [Html.avoidsAll_iff]
  intro html mem
  unfold layer at mem
  split at mem
  · simp at mem
  · obtain rfl : html = _ := by simpa using mem
    refine avoids_element known (by decide : ["class", "aria-hidden"].all isDrawingName) ?_
    intro child inside
    obtain ⟨d, -, rfl⟩ := List.mem_map.mp inside
    exact avoids_html known d

end Decoration

end Vitae
