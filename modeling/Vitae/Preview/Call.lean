import Vitae.Preview.Session

/-!
What a host asks of an editing session, as data, so that whole runs can be spoken of. Every call
leaves a session and gets a reply, or a fault in place of one.
-/

namespace Vitae

open Time (Instant)

/-- A call of a session. Where a host gives no time it is that of the clock, which may fail to tell
one. -/
inductive SessionCall (τ : Type) where
  | setEditMode (enabled : Bool)
  | receive (raw : Json)
  | processMessages
  | takeOutbox
  | stageOverride (o : ElementOverride) (now : Checked τ)
  | stageRemoval (id : ElementId) (now : Checked τ)
  | flush (now : Checked τ) (force : Bool) (time : Instant)
  | updateContent (content : Content)
  | updateStyle (style : Checked StyleTokens)
  | document
  | close

inductive SessionReply where
  | done
  | received (message : Option Message)
  | messages (messages : List Message)
  /-- What is to be stored, if anything was committed. -/
  | flushed (stored : Option OverrideSet)
  | compiled (document : String)

/-- The edit that a call stages, if its element can be looked up at all. -/
def SessionCall.edit? {τ : Type} : SessionCall τ → Option StagedEdit
  | .stageOverride o _ => if o.id.canLookUp then some (.put o) else none
  | .stageRemoval id _ => if id.canLookUp then some (.removal id) else none
  | _ => none

/-- The set that a reply hands over to be stored, if any; only a flush that commits has one. -/
def storedIn (reply : Checked SessionReply) : Option OverrideSet :=
  match reply with
  | .ok (.flushed stored) => stored
  | _ => none

/-- Whether a call with this reply was a commit. -/
def SessionCall.commits {τ : Type} (call : SessionCall τ) (reply : Checked SessionReply) : Bool :=
  match call with
  | .updateContent _ | .updateStyle _ => reply.isOk
  | .flush .. => (storedIn reply).isSome
  | _ => false

namespace EditSession

variable {τ : Type}

def replying {α : Type} (f : α → SessionReply) (r : EditSession τ × Checked α) :
    EditSession τ × Checked SessionReply :=
  (r.1, r.2.map f)

variable [Add τ]

/-- Stages an edit. What cannot be looked up is refused before anything changes. -/
def stage? (s : EditSession τ) (edit : Option StagedEdit) (now : Checked τ) :
    EditSession τ × Checked Unit :=
  match edit with
  | some edit => s.stage edit now
  | none => (s, .error (.misuse .wrongType))

variable [LT τ] [DecidableLT τ]

def perform (s : EditSession τ) (call : SessionCall τ) : EditSession τ × Checked SessionReply :=
  match call with
  | .setEditMode enabled => replying (fun _ => .done) (s.setEditMode enabled)
  | .receive raw => replying .received (s.receive raw)
  | .processMessages => replying .messages s.processMessages
  | .takeOutbox => (s.takeOutbox.1, .ok (.messages s.takeOutbox.2))
  | .stageOverride _ now => replying (fun _ => .done) (s.stage? call.edit? now)
  | .stageRemoval _ now => replying (fun _ => .done) (s.stage? call.edit? now)
  | .flush now force time => replying .flushed (s.flush now force time)
  | .updateContent content => (s.updateContent content, .ok .done)
  | .updateStyle style => replying (fun _ => .done) (s.updateStyle style)
  | .document => replying .compiled s.document
  | .close => (s.close, .ok .done)

/-- The session after a run of calls. -/
def run (s : EditSession τ) (calls : List (SessionCall τ)) : EditSession τ :=
  calls.foldl (fun s call => (s.perform call).1) s

end EditSession

end Vitae
