import Vitae.Proofs.Json
import Vitae.Proofs.Override.Storage
import Vitae.Proofs.Preview.Delivery
import Vitae.Proofs.Vocabulary

/-!
Which values are messages. A message is read exactly from the objects that say one of three things
and name a channel or none. Whatever else is refused, always as a breach of the protocol, and a
message that is sent is read as that message.
-/

namespace Vitae.Message

variable {members : List (String × Json)} {name s : String} {default channel : Option Json}
  {value : Json} {m : Message}

/-! What objects say -/

/-- A member that is a text, and not an empty one. -/
def HasText (members : List (String × Json)) (name s : String) : Prop :=
  Json.get? name members = some (.string s) ∧ s.isEmpty = false

/-- What the members of an object say. -/
inductive Says (members : List (String × Json)) : Notice → Prop where
  | selected {selection : Selection} (kind : HasText members "type" "elementSelected")
    (id : HasText members "elementId" selection.id)
    (type : HasText members "elementType" selection.type.word)
    (label : labelIn members = selection.label) : Says members (.selected selection)
  | deselected (kind : HasText members "type" "elementDeselected") : Says members .deselected
  | editMode {enabled : Bool} (kind : HasText members "type" "setEditMode")
    (flag : Json.get? "enabled" members = some (.bool enabled)) : Says members (.editMode enabled)

/-- The channel that the members of an object name, or the one they are given. -/
inductive IsOn (members : List (String × Json)) (default : Option Json) : Option Json → Prop where
  | named {name : String} (own : HasText members "channel" name) :
    IsOn members default (some (.string name))
  | unnamed (missing : (Json.getOrNull "channel" members).isNull) : IsOn members default default

/-! What is read of an object -/

theorem textIn_eq_ok : textIn members name = .ok s ↔ HasText members name s := by
  unfold textIn HasText
  split
  · next found =>
    rw [found]
    split
    · next empty =>
      constructor
      · rintro ⟨⟩
      · rintro ⟨⟨⟩, nonempty⟩
        rw [empty] at nonempty
        cases nonempty
    · next nonempty =>
      constructor
      · rintro ⟨⟩
        exact ⟨rfl, Bool.eq_false_iff.mpr nonempty⟩
      · rintro ⟨⟨⟩, -⟩
        rfl
  · next none =>
    constructor
    · rintro ⟨⟩
    · rintro ⟨found, -⟩
      exact absurd found (none s)

theorem hasText_of_getOrNull (found : Json.getOrNull name members = .string s)
    (nonempty : s.isEmpty = false) : HasText members name s := by
  refine ⟨?_, nonempty⟩
  rw [Json.getOrNull] at found
  cases member : Json.get? name members with
  | none => simp [member] at found
  | some value => simpa [member] using found

theorem HasText.getOrNull (h : HasText members name s) :
    Json.getOrNull name members = .string s := by
  rw [Json.getOrNull, h.1, Option.getD_some]

theorem channelIn_eq_ok :
    channelIn members default = .ok channel ↔ IsOn members default channel := by
  rw [channelIn]
  split
  · next missing =>
    constructor
    · rintro ⟨⟩
      exact .unnamed missing
    · rintro (own | -)
      · rw [own.getOrNull] at missing
        cases missing
      · rfl
  · next given =>
    rw [Checked.map_eq_ok]
    constructor
    · rintro ⟨name, read, rfl⟩
      exact .named (textIn_eq_ok.mp read)
    · rintro (own | missing)
      · exact ⟨_, textIn_eq_ok.mpr own, rfl⟩
      · exact absurd missing given

theorem selectionIn_eq_ok {selection : Selection} :
    selectionIn members = .ok selection ↔ HasText members "elementId" selection.id
      ∧ HasText members "elementType" selection.type.word ∧ labelIn members = selection.label := by
  rw [selectionIn, Checked.bind_eq_ok]
  constructor
  · rintro ⟨word, read, made⟩
    split at made
    · cases made
    · next type found =>
      obtain ⟨id, named, made⟩ := Checked.bind_eq_ok.mp made
      obtain rfl := Except.ok.inj made
      obtain rfl : type.word = word := Vocabulary.word_of_ofWord? found
      exact ⟨textIn_eq_ok.mp named, textIn_eq_ok.mp read, rfl⟩
  · rintro ⟨id, type, label⟩
    refine ⟨_, textIn_eq_ok.mpr type, ?_⟩
    rw [selection.type.ofWord?_word]
    exact Checked.bind_eq_ok.mpr ⟨_, textIn_eq_ok.mpr id, by rw [label]; rfl⟩

theorem noticeIn_eq_ok {notice : Notice} :
    noticeIn members = .ok notice ↔ Says members notice := by
  constructor
  · intro read
    rw [noticeIn] at read
    split at read
    · next kind =>
      obtain ⟨selection, found, rfl⟩ := Checked.map_eq_ok.mp read
      obtain ⟨id, type, label⟩ := selectionIn_eq_ok.mp found
      exact .selected (hasText_of_getOrNull kind rfl) id type label
    · next kind =>
      obtain rfl := Except.ok.inj read
      exact .deselected (hasText_of_getOrNull kind rfl)
    · next kind =>
      split at read
      · next flag =>
        obtain rfl := Except.ok.inj read
        exact .editMode (hasText_of_getOrNull kind rfl) flag
      · cases read
    · cases read
  · rintro (⟨kind, id, type, label⟩ | kind | ⟨kind, flag⟩)
    · rw [noticeIn, kind.getOrNull]
      exact Checked.map_eq_ok.mpr ⟨_, selectionIn_eq_ok.mpr ⟨id, type, label⟩, rfl⟩
    · rw [noticeIn, kind.getOrNull]
      rfl
    · rw [noticeIn, kind.getOrNull]
      simp only [flag]

/-- A message is read from an object that says it on its channel, and from nothing else. -/
theorem ofJson_eq_ok : ofJson value default = .ok m ↔ ∃ members, value = .object members
    ∧ Says members m.notice ∧ IsOn members default m.channel := by
  unfold ofJson
  split
  · next members =>
    rw [Checked.bind_eq_ok]
    constructor
    · rintro ⟨channel, named, read⟩
      obtain ⟨notice, said, read⟩ := Checked.bind_eq_ok.mp read
      obtain rfl := Except.ok.inj read
      exact ⟨members, rfl, noticeIn_eq_ok.mp said, channelIn_eq_ok.mp named⟩
    · rintro ⟨_, ⟨⟩, said, named⟩
      exact ⟨_, channelIn_eq_ok.mpr named, Checked.bind_eq_ok.mpr ⟨_, noticeIn_eq_ok.mpr said, rfl⟩⟩
  · next other =>
    constructor
    · rintro ⟨⟩
    · rintro ⟨members, rfl, -⟩
      exact absurd rfl (other members)

/-! What a refusal tells -/

/-- A breach of the protocol. -/
def IsBreach (fault : Fault) : Prop := ∃ cause, fault = .protocol cause

open Checked (FailsBy failsBy_ok failsBy_error)

theorem failsBy_textIn (members : List (String × Json)) (name : String) :
    FailsBy IsBreach (textIn members name) := by
  unfold textIn
  split
  · split
    · exact failsBy_error ⟨_, rfl⟩
    · exact failsBy_ok _
  · exact failsBy_error ⟨_, rfl⟩

theorem failsBy_channelIn (members : List (String × Json)) (default : Option Json) :
    FailsBy IsBreach (channelIn members default) := by
  rw [channelIn]
  split
  · exact failsBy_ok _
  · exact (failsBy_textIn members "channel").map _

theorem failsBy_selectionIn (members : List (String × Json)) :
    FailsBy IsBreach (selectionIn members) := by
  refine (failsBy_textIn members "elementType").bind fun word => ?_
  split
  · exact failsBy_error ⟨_, rfl⟩
  · exact (failsBy_textIn members "elementId").bind fun _ => failsBy_ok _

theorem failsBy_noticeIn (members : List (String × Json)) :
    FailsBy IsBreach (noticeIn members) := by
  rw [noticeIn]
  split
  · exact (failsBy_selectionIn members).map _
  · exact failsBy_ok _
  · split
    · exact failsBy_ok _
    · exact failsBy_error ⟨_, rfl⟩
  · exact failsBy_error ⟨_, rfl⟩

theorem failsBy_ofJson (value : Json) (default : Option Json) :
    FailsBy IsBreach (ofJson value default) := by
  unfold ofJson
  split
  · exact (failsBy_channelIn _ default).bind fun _ =>
      (failsBy_noticeIn _).bind fun _ => failsBy_ok _
  · exact failsBy_error ⟨_, rfl⟩

/-! What is sent -/

/-- The members that a message is sent with. -/
def sent (m : Message) : List (String × Json) :=
  noticeMembers m.notice ++ m.channel.toList.map fun c => ("channel", c)

theorem toJson_eq (m : Message) : m.toJson = .object m.sent := rfl

/-- No label is sent as an empty one. -/
theorem labelIn_sent (selection : Selection) (channel : Option Json) :
    labelIn (sent ⟨.selected selection, channel⟩) = selection.label := by
  have label : Json.getOrNull "elementLabel" (sent ⟨.selected selection, channel⟩)
      = .string selection.label := rfl
  rw [labelIn, label, Json.truthy]
  cases empty : selection.label.isEmpty with
  | false => rfl
  | true => exact (String.isEmpty_iff.mp empty).symm

/-- What was read of some object is said again when it is sent. -/
theorem Says.sent {notice : Notice} (said : Says members notice) (channel : Option Json) :
    Says (sent ⟨notice, channel⟩) notice := by
  cases said with
  | selected kind id type label =>
    exact .selected ⟨rfl, kind.2⟩ ⟨rfl, id.2⟩ ⟨rfl, type.2⟩ (labelIn_sent _ channel)
  | deselected kind => exact .deselected ⟨rfl, kind.2⟩
  | editMode kind flag => exact .editMode ⟨rfl, kind.2⟩ rfl

/-- A message stays on its channel if the one it might have been given has a name that is not
empty. -/
theorem IsOn.sent (proper : ∀ c ∈ default, ∃ name, c = .string name ∧ name.isEmpty = false)
    (on : IsOn members default channel) (notice : Notice) :
    IsOn (sent ⟨notice, channel⟩) default channel := by
  have named {name : String} (nonempty : name.isEmpty = false) :
      HasText (Message.sent ⟨notice, some (.string name)⟩) "channel" name := by
    refine ⟨?_, nonempty⟩
    cases notice <;> rfl
  cases on with
  | named own => exact .named (named own.2)
  | unnamed =>
    cases default with
    | none =>
      apply IsOn.unnamed
      cases notice <;> rfl
    | some c =>
      obtain ⟨name, rfl, nonempty⟩ := proper c rfl
      exact .named (named nonempty)

/-- What is read of what is sent. -/
theorem ofJson_toJson (proper : ∀ c ∈ default, ∃ name, c = .string name ∧ name.isEmpty = false)
    (read : ofJson value default = .ok m) : ofJson m.toJson default = .ok m := by
  obtain ⟨members, -, said, on⟩ := ofJson_eq_ok.mp read
  exact ofJson_eq_ok.mpr ⟨m.sent, m.toJson_eq, said.sent m.channel, on.sent proper m.notice⟩

/-- The channel that a message might be given does not matter where it names its own. -/
theorem ofJson_of_named (own : HasText members "channel" name) (default other : Option Json) :
    ofJson (.object members) default = ofJson (.object members) other := by
  rw [ofJson, ofJson, channelIn_eq_ok.mpr (.named own), channelIn_eq_ok.mpr (.named own)]

/-! The protocol -/

/-- The values that are messages: objects that name a channel or none, and say something. -/
def IsOnTheWire (value : Json) : Prop :=
  ∃ members, value = .object members
    ∧ ((Json.getOrNull "channel" members).isNull ∨ ∃ name, HasText members "channel" name)
    ∧ ∃ notice, Says members notice

theorem exists_ofJson_iff (value : Json) (default : Option Json) :
    (∃ m, ofJson value default = .ok m) ↔ IsOnTheWire value := by
  constructor
  · rintro ⟨⟨notice, channel⟩, read⟩
    obtain ⟨members, rfl, said, on⟩ := ofJson_eq_ok.mp read
    refine ⟨members, rfl, ?_, notice, said⟩
    cases on with
    | named own => exact .inr ⟨_, own⟩
    | unnamed missing => exact .inl missing
  · rintro ⟨members, rfl, missing | ⟨name, own⟩, notice, said⟩
    · exact ⟨⟨notice, default⟩, ofJson_eq_ok.mpr ⟨members, rfl, said, .unnamed missing⟩⟩
    · exact ⟨⟨notice, _⟩, ofJson_eq_ok.mpr ⟨members, rfl, said, .named own⟩⟩

/-- Messages are exactly what the protocol says. With no channel given, or one whose name is not
empty, every value is read as a message or refused as a breach of the protocol. It is read if and
only if it is an object that names a channel or none and says that an element was selected, that
none is, or whether elements can be edited, and then the message is what the object says. A message
that was read is read again from what it is sent as, and an object that names no channel is read
like the one to which the given channel is added. -/
theorem reads_the_protocol (value : Json) {default : Option String}
    (proper : ∀ name ∈ default, name.isEmpty = false) :
    ((∃ m, ofJson value (default.map .string) = .ok m)
        ∨ ∃ cause, ofJson value (default.map .string) = .error (.protocol cause))
      ∧ ((∃ m, ofJson value (default.map .string) = .ok m) ↔ IsOnTheWire value)
      ∧ (∀ m, ofJson value (default.map .string) = .ok m ↔ ∃ members, value = .object members
        ∧ Says members m.notice ∧ IsOn members (default.map .string) m.channel)
      ∧ (∀ m, ofJson value (default.map .string) = .ok m →
        ofJson m.toJson (default.map .string) = .ok m)
      ∧ ∀ members name, value = .object members → default = some name →
        (Json.getOrNull "channel" members).isNull → ∀ other, ofJson value (default.map .string)
          = ofJson (.object (putMember "channel" (.string name) members)) other := by
  refine ⟨?_, exists_ofJson_iff value _, fun m => ofJson_eq_ok, fun m => ofJson_toJson ?_, ?_⟩
  · cases read : ofJson value (default.map .string) with
    | ok m => exact .inl ⟨m, rfl⟩
    | error fault =>
      obtain ⟨cause, rfl⟩ := failsBy_ofJson value _ fault read
      exact .inr ⟨cause, rfl⟩
  · intro c given
    obtain ⟨name, inside, rfl⟩ := Option.map_eq_some_iff.mp given
    exact ⟨name, rfl, proper name inside⟩
  · rintro members name rfl rfl missing other
    have nonempty : name.isEmpty = false := proper name rfl
    have own : Json.get? "channel" (putMember "channel" (.string name) members)
        = some (.string name) := by
      rw [Json.get?_putMember, if_pos rfl]
    have same : ∀ key ≠ "channel", Json.get? key members
        = Json.get? key (putMember "channel" (.string name) members) := by
      intro key differs
      rw [Json.get?_putMember, if_neg differs.symm]
    exact (ofJson_of_unnamed nonempty missing own same).trans
      (ofJson_of_named ⟨own, nonempty⟩ _ other)

/-- A selection with a number for its label, sent on no channel. -/
def numberedClick : List (String × Json) :=
  [("channel", .null), ("elementLabel", .int 3), ("elementType", .string "highlight"),
    ("elementId", .string "experience-0-1"), ("type", .string "elementSelected")]

def numberedMessage : Message :=
  ⟨.selected ⟨"experience-0-1", .highlight, "3"⟩, some (.string "cv-preview")⟩

theorem reads_the_protocol_numbered :
    (∀ name ∈ some "cv-preview", name.isEmpty = false)
      ∧ ofJson (.object numberedClick) (some (.string "cv-preview")) = .ok numberedMessage
      ∧ ofJson numberedMessage.toJson (some (.string "cv-preview")) = .ok numberedMessage
      ∧ ofJson (.object (putMember "channel" (.string "cv-preview") numberedClick)) none
        = .ok numberedMessage := by
  have proper : ∀ name ∈ some "cv-preview", name.isEmpty = false := by
    rintro name ⟨⟩
    rfl
  obtain ⟨-, -, reads, again, added⟩ := reads_the_protocol (.object numberedClick) proper
  have said : Says numberedClick numberedMessage.notice :=
    .selected ⟨rfl, rfl⟩ ⟨rfl, rfl⟩ ⟨rfl, rfl⟩ rfl
  have read := (reads numberedMessage).mpr ⟨_, rfl, said, .unnamed rfl⟩
  exact ⟨proper, read, again _ read, added _ _ rfl rfl rfl none ▸ read⟩

end Vitae.Message
