import Vitae.Element.Basic

/-!
Observing elements. An observer tells one thing of some heads, and what it sees of elements is what
it tells of one head after another in document order.
-/

namespace Vitae.Element

variable {β : Type} (observe : ElementHead → Option β)

/-- What an observer sees of elements. -/
def seen (elements : List Element) : List β := (walkAll elements).filterMap observe

theorem seen_append (elements others : List Element) :
    seen observe (elements ++ others) = seen observe elements ++ seen observe others := by
  rw [seen, walkAll_append, List.filterMap_append]
  rfl

theorem seen_cons (element : Element) (elements : List Element) :
    seen observe (element :: elements) = seen observe [element] ++ seen observe elements :=
  seen_append observe [element] elements

theorem seen_flatten (parts : List (List Element)) :
    seen observe parts.flatten = (parts.map (seen observe)).flatten := by
  induction parts with
  | nil => rfl
  | cons part parts ih => rw [List.flatten_cons, seen_append, ih, List.map_cons, List.flatten_cons]

theorem seen_eq_flatMap (elements : List Element) :
    seen observe elements = elements.flatMap fun element => seen observe [element] := by
  induction elements with
  | nil => rfl
  | cons element elements ih => rw [seen_cons, ih, List.flatMap_cons]

theorem seen_map {α : Type} (f : α → Element) (items : List α) :
    seen observe (items.map f) = items.flatMap fun item => seen observe [f item] := by
  rw [seen_eq_flatMap, List.flatMap_map]

theorem seen_node (head : ElementHead) (children : List Element) :
    seen observe [.node head children] = (observe head).toList ++ seen observe children := by
  cases h : observe head <;> simp [seen, walkAll, walk, h]

end Vitae.Element
