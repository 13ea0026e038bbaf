import Vitae.Element.Id

/-!
The tree of a document. A node is a head, which says everything about the element itself, and its
children. Elements with a path are addressed: they are given an id and can be overridden.
-/

namespace Vitae

structure ElementHead where
  tag : String
  classes : List String := []
  text : Option String := none
  attributes : List (String × String) := []
  path : Option (List String) := none
  type : Option ElementType := none
  label : Option String := none
  required : Bool := false
  id : Option String := none
  style : List (String × String) := []
  hidden : Bool := false
  deriving DecidableEq, Repr

inductive Element where
  | node (head : ElementHead) (children : List Element)
  deriving BEq, Repr

namespace Element

def head : Element → ElementHead
  | .node head _ => head

def children : Element → List Element
  | .node _ children => children

mutual

/-- The heads of a tree in document order. -/
def walk : Element → List ElementHead
  | .node head children => head :: walkAll children

def walkAll : List Element → List ElementHead
  | [] => []
  | element :: rest => walk element ++ walkAll rest

end

mutual

def mapHeads (f : ElementHead → ElementHead) : Element → Element
  | .node head children => .node (f head) (mapHeadsAll f children)

def mapHeadsAll (f : ElementHead → ElementHead) : List Element → List Element
  | [] => []
  | element :: rest => mapHeads f element :: mapHeadsAll f rest

end

theorem walkAll_append (some others : List Element) :
    walkAll (some ++ others) = walkAll some ++ walkAll others := by
  induction some with
  | nil => rfl
  | cons element rest ih => simp [walkAll, ih]

mutual

theorem walk_mapHeads (f : ElementHead → ElementHead) (element : Element) :
    (element.mapHeads f).walk = element.walk.map f := by
  match element with
  | .node head children => simp [mapHeads, walk, walkAll_mapHeadsAll f children]

theorem walkAll_mapHeadsAll (f : ElementHead → ElementHead) (elements : List Element) :
    walkAll (mapHeadsAll f elements) = (walkAll elements).map f := by
  match elements with
  | [] => rfl
  | element :: rest =>
    simp [mapHeadsAll, walkAll, walk_mapHeads f element, walkAll_mapHeadsAll f rest]

end

end Element

end Vitae
