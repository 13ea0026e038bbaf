import Vitae.Document.Identity
import Vitae.Override.Collection

/-!
Overrides applied to a tree. A colour replaces the one of the style for that element alone, and a
hidden element is taken out with everything in it. Required elements stay, and overrides that name
no element do nothing.
-/

namespace Vitae

namespace ElementHead

/-- The id an element can be overridden by; an empty one does not count. -/
def address? (h : ElementHead) : Option String := h.id.filter fun id => !id.isEmpty

def putStyle (name : String) (color : Option Color) (h : ElementHead) : ElementHead :=
  match color with
  | some c => { h with style := putMember name (c.hex ++ " !important") h.style }
  | none => h

def amend (o : ElementOverride) (h : ElementHead) : ElementHead :=
  let h := (h.putStyle "color" o.color).putStyle "background-color" o.background
  { h with hidden := h.hidden || (o.hidden && !h.required) }

/-- Applies the override for an element, if there is one. Of several elements with one id only the
last in document order is changed, so the ids that are still to come are looked at. -/
def amendFrom (s : OverrideSet) (later : List String) (h : ElementHead) : ElementHead :=
  match h.address? with
  | some id =>
    if later.contains id then h
    else
      match s.get? (.text id) with
      | some o => h.amend o
      | none => h
  | none => h

end ElementHead

namespace Element

def addresses (elements : List Element) : List String :=
  (walkAll elements).filterMap ElementHead.address?

mutual

def amend (s : OverrideSet) (later : List String) : Element → Element
  | .node head children =>
    .node (head.amendFrom s (addresses children ++ later)) (amendAll s later children)

def amendAll (s : OverrideSet) (later : List String) : List Element → List Element
  | [] => []
  | element :: rest => amend s (addresses rest ++ later) element :: amendAll s later rest

end

mutual

/-- A tree without its hidden elements. The root itself stays. -/
def prune : Element → Element
  | .node head children => .node head (pruneAll children)

def pruneAll : List Element → List Element
  | [] => []
  | element :: rest =>
    if element.head.hidden then pruneAll rest else prune element :: pruneAll rest

end

mutual

/-- The ids of the elements that pruning takes out, those inside them not counted. -/
def prunedIds : Element → List (Option String)
  | .node _ children => prunedIdsAll children

def prunedIdsAll : List Element → List (Option String)
  | [] => []
  | element :: rest =>
    (if element.head.hidden then [element.head.id] else prunedIds element) ++ prunedIdsAll rest

end

end Element

/-- What a set of overrides did to a document. -/
structure OverrideReport where
  applied : List String := []
  hidden : List (Option String) := []
  ignored : List String := []
  stale : List ElementId := []
  deriving DecidableEq, Repr

namespace DocumentTree

/-- The last element with an id. -/
def find? (d : DocumentTree) (id : String) : Option ElementHead :=
  d.walk.reverse.find? fun h => h.address? = some id

/-- The element that an id names. -/
def lookUp (d : DocumentTree) : ElementId → Option ElementHead
  | .text id => d.find? id
  | _ => none

def amendSections (s : OverrideSet) : List SectionTree → List SectionTree
  | [] => []
  | t :: rest =>
    { t with root := Element.amend s (Element.addresses (rest.map SectionTree.root)) t.root }
      :: amendSections s rest

/-- Overrides written into the heads, nothing taken out yet. -/
def amend (s : OverrideSet) (d : DocumentTree) : DocumentTree :=
  { header := Element.amend s (Element.addresses (d.sections.map SectionTree.root)) d.header
    sections := amendSections s d.sections }

/-- Takes out hidden sections and everything hidden inside the header and the sections. -/
def prune (d : DocumentTree) : DocumentTree :=
  { header := d.header.prune
    sections := (d.sections.filter fun t => !t.root.head.hidden).map fun t =>
      { t with root := t.root.prune } }

def prunedIds (d : DocumentTree) : List (Option String) :=
  d.header.prunedIds ++ Element.prunedIdsAll (d.sections.map SectionTree.root)

/-- The ids of overrides that pick some element. -/
def idsWhere (pick : ElementOverride → Option ElementHead → Bool) (s : OverrideSet)
    (d : DocumentTree) : List ElementId :=
  (s.entries.filter fun o => pick o (d.lookUp o.id)).map ElementOverride.id

def textsOf (ids : List ElementId) : List String :=
  ids.filterMap fun
    | .text id => some id
    | _ => none

def report (s : OverrideSet) (d : DocumentTree) : OverrideReport :=
  { applied := textsOf (idsWhere (fun _ found => found.isSome) s d)
    hidden := (d.amend s).prunedIds
    ignored := textsOf (idsWhere (fun o found => o.hidden && found.any (·.required)) s d)
    stale := idsWhere (fun _ found => found.isNone) s d }

/-- The tree that a set of overrides leaves. An empty set changes nothing, not even what is
hidden. -/
def override (s : OverrideSet) (d : DocumentTree) : DocumentTree :=
  if s.isEmpty then d else (d.amend s).prune

/-- What is noted while the overrides are gone through. -/
def overrideReport (s : OverrideSet) (d : DocumentTree) : OverrideReport :=
  if s.isEmpty then {} else d.report s

/-- Applies a set of overrides. The stale ids are told in one line of text, and one that is no text
cannot stand there: then there is neither a tree nor a report. -/
def applyOverrides (s : OverrideSet) (d : DocumentTree) :
    Checked (DocumentTree × OverrideReport) :=
  let report := d.overrideReport s
  if report.stale.all ElementId.isText then .ok (d.override s, report)
  else .error (.misuse .wrongType)

end DocumentTree

end Vitae
