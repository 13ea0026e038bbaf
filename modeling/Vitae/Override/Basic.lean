import Vitae.Element.Id
import Vitae.Color.Basic

/-!
An override: what an author changed about one element.
-/

namespace Vitae

structure ElementOverride where
  /-- The id as it was written. -/
  written : Json
  type : ElementType
  hidden : Bool := false
  color : Option Color := none
  background : Option Color := none
  deriving BEq, Repr

namespace ElementOverride

def id (o : ElementOverride) : ElementId := .ofJson o.written

/-- The id that is given from outside, or else the one the members hold; nothing counts as an empty
text. -/
def idOf (given : Json) (members : List (String × Json)) : Json :=
  let own := Json.getOrNull "elementId" members
  if given.truthy then given else if own.truthy then own else .string ""

def typeOf (id : Json) (members : List (String × Json)) : Checked ElementType :=
  let value := Json.getOrNull "elementType" members
  if value.truthy then
    match Vocabulary.ofJson? value with
    | some type => .ok type
    | none => .error (.configuration (.unknownElementType id.plainText value))
  else
    match id with
    | .string s => .ok (ElementType.infer s)
    | _ => .error (.misuse .noMembers)

def hiddenIn (id : Json) (members : List (String × Json)) : Checked Bool :=
  match Json.get? "hidden" members with
  | none => .ok false
  | some value => readFlag (id.plainText ++ ".hidden") value

/-- A colour that may be left out; whatever counts as false counts as left out. -/
def colorIn (id : Json) (key : String) (members : List (String × Json)) :
    Checked (Option Color) :=
  let value := Json.getOrNull key members
  if value.truthy then (Color.read (id.plainText ++ "." ++ key) value).map some else .ok none

/-- Reads an override; `given` is its id where the place it stands in names it. -/
def read (given value : Json) : Checked ElementOverride := do
  let members ← value.membersOf
  let id := idOf given members
  let type ← typeOf id members
  let hidden ← hiddenIn id members
  if !id.truthy then throw (.configuration .emptyElementId)
  let color ← colorIn id "colorOverride" members
  let background ← colorIn id "backgroundOverride" members
  return ⟨id, type, hidden, color, background⟩

def colorMember (key : String) : Option Color → List (String × Json)
  | none => []
  | some c => [(key, .string c.hex)]

def toJson (o : ElementOverride) : Json :=
  .object ([("elementId", o.written), ("elementType", .string o.type.word),
    ("hidden", .bool o.hidden)] ++ colorMember "colorOverride" o.color
    ++ colorMember "backgroundOverride" o.background)

end ElementOverride

end Vitae
