import Vitae.Document.Assembly

/-!
Ids of addressed elements. They depend on the path alone, so the same content has the same ids in
every style.
-/

namespace Vitae

namespace ElementHead

def pathId? (h : ElementHead) : Option String := h.path.map ElementId.ofPath

/-- A path gives its id; an element without one keeps what it has. -/
def withPathId (h : ElementHead) : ElementHead := { h with id := h.pathId? <|> h.id }

end ElementHead

/-- The first text that stood in the list before, or among those already seen. -/
def firstRepeated? (seen : List String) : List String → Option String
  | [] => none
  | s :: rest => if seen.contains s then some s else firstRepeated? (s :: seen) rest

namespace DocumentTree

/-- The ids that the paths give, in document order. -/
def pathIds (d : DocumentTree) : List String := d.walk.filterMap ElementHead.pathId?

/-- Gives every addressed element its id; two elements with the same one are refused. -/
def identify (d : DocumentTree) : Checked DocumentTree :=
  match firstRepeated? [] d.pathIds with
  | some id => .error (.render (.duplicateId id))
  | none => .ok (d.mapHeads ElementHead.withPathId)

end DocumentTree

/-- Every id that a content and a layout produce, in document order. -/
def knownIds (content : Content) (layout : LayoutTokens) : Checked (List String) := do
  let tree := DocumentTree.assemble content layout
  let _ ← tree.identify
  return tree.pathIds

end Vitae
