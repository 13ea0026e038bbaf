import Vitae.Preview.Channel

/-!
What is asked of a channel, as data, so that whole runs can be spoken of. Every call leaves a
channel and gets a reply, or a fault in place of one.
-/

namespace Vitae

inductive ChannelCall where
  | receive (raw : Json)
  | drain
  | setEditMode (enabled : Bool)
  | takeOutbox
  | close
  deriving DecidableEq, Repr

inductive ChannelReply where
  /-- The message that came in, unless it was dropped. -/
  | received (message : Option Message)
  | drained (messages : List Message)
  | announced (message : Message)
  | taken (messages : List Message)
  | closed
  deriving DecidableEq, Repr

/-! The messages that a reply tells of -/

@[simp]
def acceptedIn : Checked ChannelReply → List Message
  | .ok (.received message) => message.toList
  | _ => []

@[simp]
def drainedIn : Checked ChannelReply → List Message
  | .ok (.drained messages) => messages
  | _ => []

@[simp]
def announcedIn : Checked ChannelReply → List Message
  | .ok (.announced message) => [message]
  | _ => []

@[simp]
def takenIn : Checked ChannelReply → List Message
  | .ok (.taken messages) => messages
  | _ => []

namespace ChannelCall

/-- The message that a call brings to the inbox of an open channel with this name. -/
def admitted? (id : Json) : ChannelCall → Option Message
  | .receive raw => (Message.ofJson raw (some id)).toOption.filter fun m =>
    m.channel = some id && m.notice.isFromDocument
  | _ => none

/-- The message that a call puts into the outbox of an open channel with this name. -/
@[simp]
def announcement? (id : Json) : ChannelCall → Option Message
  | .setEditMode enabled => some ⟨.editMode enabled, some id⟩
  | _ => none

end ChannelCall

namespace EditChannel

/-- A failure leaves the channel as it was. -/
def replying {α : Type} (c : EditChannel) (reply : α → ChannelReply)
    (result : Checked (EditChannel × α)) : EditChannel × Checked ChannelReply :=
  match result with
  | .ok (c', a) => (c', .ok (reply a))
  | .error fault => (c, .error fault)

def perform (c : EditChannel) : ChannelCall → EditChannel × Checked ChannelReply
  | .receive raw => c.replying .received (c.receive raw)
  | .drain => c.replying .drained c.drain
  | .setEditMode enabled => c.replying .announced (c.setEditMode enabled)
  | .takeOutbox => (c.takeOutbox.1, .ok (.taken c.takeOutbox.2))
  | .close => (c.close, .ok .closed)

/-- The channel after a run of calls. -/
def run (c : EditChannel) (calls : List ChannelCall) : EditChannel :=
  calls.foldl (fun c call => (c.perform call).1) c

/-- The replies to a run of calls, in the order of the calls. -/
def replies (c : EditChannel) : List ChannelCall → List (Checked ChannelReply)
  | [] => []
  | call :: calls => (c.perform call).2 :: replies (c.perform call).1 calls

end EditChannel

end Vitae
