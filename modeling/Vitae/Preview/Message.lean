import Vitae.Element.Type
import Vitae.Fault

/-!
Messages between an embedded document and its host. The document tells what was selected, the host
whether elements can be selected. A message may name the channel it belongs to, with a text that is
not empty; a channel that is given to it may have any value for its name.
-/

namespace Vitae

structure Selection where
  id : String
  type : ElementType
  label : String
  deriving DecidableEq, Repr

inductive Notice where
  | selected (selection : Selection)
  | deselected
  | editMode (enabled : Bool)
  deriving DecidableEq, Repr

/-- Whether a document, rather than its host, says this. -/
def Notice.isFromDocument : Notice → Bool
  | .editMode _ => false
  | _ => true

structure Message where
  notice : Notice
  channel : Option Json := none
  deriving DecidableEq, Repr

namespace Message

def noticeMembers : Notice → List (String × Json)
  | .selected s =>
    [("type", .string "elementSelected"), ("elementId", .string s.id),
      ("elementType", .string s.type.word), ("elementLabel", .string s.label)]
  | .deselected => [("type", .string "elementDeselected")]
  | .editMode enabled => [("type", .string "setEditMode"), ("enabled", .bool enabled)]

def toJson (m : Message) : Json :=
  .object (noticeMembers m.notice ++ m.channel.toList.map fun c => ("channel", c))

/-- The text of a member that has to be there and not be empty. -/
def textIn (members : List (String × Json)) (name : String) : Checked String :=
  match Json.get? name members with
  | some (.string s) => if s.isEmpty then invalid else .ok s
  | _ => invalid
where
  invalid : Checked String :=
    .error (.protocol (.invalidField (Json.getOrNull "type" members) name))

/-- The channel of a message; one that names none is on the channel given here. -/
def channelIn (members : List (String × Json)) (default : Option Json) : Checked (Option Json) :=
  if (Json.getOrNull "channel" members).isNull then .ok default
  else (textIn members "channel").map fun name => some (.string name)

/-- A label may be any value; what counts as false is no label. -/
def labelIn (members : List (String × Json)) : String :=
  let value := Json.getOrNull "elementLabel" members
  if value.truthy then value.plainText else ""

def selectionIn (members : List (String × Json)) : Checked Selection := do
  let word ← textIn members "elementType"
  match Vocabulary.ofWord? word with
  | none => throw (.protocol (.unknownElementType (Json.getOrNull "type" members) word))
  | some type => return ⟨← textIn members "elementId", type, labelIn members⟩

def noticeIn (members : List (String × Json)) : Checked Notice :=
  let type := Json.getOrNull "type" members
  match type with
  | .string "elementSelected" => (selectionIn members).map .selected
  | .string "elementDeselected" => .ok .deselected
  | .string "setEditMode" =>
    match Json.get? "enabled" members with
    | some (.bool enabled) => .ok (.editMode enabled)
    | _ => .error (.protocol (.invalidField type "enabled"))
  | _ => .error (.protocol (.unknownType type))

/-- Reads a message. Its channel is looked at before what it says. -/
def ofJson (value : Json) (default : Option Json) : Checked Message :=
  match value with
  | .object members => do
    let channel ← channelIn members default
    return ⟨← noticeIn members, channel⟩
  | _ => .error (.protocol (.objectExpected value))

end Message

end Vitae
