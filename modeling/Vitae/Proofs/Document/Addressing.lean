import Vitae.Proofs.Document.Heads

/-!
Assembled trees when their elements have been given ids. Nothing in them is hidden, and an element
has the address of its path or none, so overrides find every element on its own.
-/

namespace Vitae

open Element (walkAll)

namespace Element

def AreFresh (elements : List Element) : Prop := ∀ h ∈ walkAll elements, h.IsFresh

end Element

open Element (AreFresh)

/-- Nothing of an assembled tree is hidden or has an id before ids are given. -/
theorem DocumentTree.areFresh_assemble (content : Content) (layout : LayoutTokens) :
    AreFresh (assemble content layout).roots :=
  fun h mem => (areMade_assemble content layout h mem).fresh

namespace ElementHead

/-- The address of an element is the id of its path. -/
theorem IsFresh.address?_withPathId {h : ElementHead} (fresh : h.IsFresh) :
    h.withPathId.address? = h.pathId?.filter fun id => !id.isEmpty := by
  simp [address?, withPathId, fresh.id]

/-- An address that tells its path tells the path of the element. -/
theorem IsFresh.path_of_address? {h : ElementHead} (fresh : h.IsFresh)
    (plain : ∀ path ∈ h.path, ElementId.IsPlain path) {path : List String}
    (own : ElementId.IsPlain path)
    (address : h.withPathId.address? = some (ElementId.ofPath path)) : h.path = some path := by
  rw [fresh.address?_withPathId, Option.filter_eq_some_iff] at address
  obtain ⟨other, given, same⟩ := Option.map_eq_some_iff.mp address.1
  rw [given, ElementId.ofPath_injective (plain other given) own same]

end ElementHead

namespace DocumentTree

theorem roots_mapHeads (f : ElementHead → ElementHead) (d : DocumentTree) :
    (d.mapHeads f).roots = d.roots.map (Element.mapHeads f) := by
  simp [roots, mapHeads, mapRoots, Function.comp_def]

theorem walk_mapHeads (f : ElementHead → ElementHead) (d : DocumentTree) :
    (d.mapHeads f).walk = d.walk.map f := by
  rw [walk, roots_mapHeads, ← Element.mapHeadsAll_eq_map, Element.walkAll_mapHeadsAll, walk]

/-- The addresses of a tree that is given ids are those ids. -/
theorem addresses_mapHeads {d : DocumentTree} (fresh : AreFresh d.roots) :
    Element.addresses (d.mapHeads ElementHead.withPathId).roots
      = d.pathIds.filter fun id => !id.isEmpty := by
  have walk : walkAll (d.mapHeads ElementHead.withPathId).roots
      = (walkAll d.roots).map ElementHead.withPathId := d.walk_mapHeads ElementHead.withPathId
  rw [Element.addresses, walk, List.filterMap_map, pathIds, List.filter_filterMap]
  apply List.filterMap_congr
  intro h mem
  exact (fresh h mem).address?_withPathId

/-- Once they have ids, the elements of an assembled tree have addresses of their own and are
shown. -/
theorem shown_mapHeads {d : DocumentTree} (fresh : AreFresh d.roots) :
    ∀ h ∈ (d.mapHeads ElementHead.withPathId).walk, h.hidden = false := by
  intro h mem
  rw [walk_mapHeads] at mem
  obtain ⟨own, inside, rfl⟩ := List.mem_map.mp mem
  exact (fresh own inside).shown

end DocumentTree

end Vitae
