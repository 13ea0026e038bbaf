import Vitae.Preview.Message

/-!
The channel of one embedded document. What its document says waits in the inbox and what its host
says in the outbox, both in the order of arrival. A closed channel takes and gives nothing more.
-/

namespace Vitae

structure EditChannel where
  id : Json
  inbox : List Message := []
  outbox : List Message := []
  closed : Bool := false
  deriving DecidableEq, Repr

namespace EditChannel

/-- Opens a channel. What counts as false names none. -/
def named (id : Json) : Checked EditChannel :=
  if id.truthy then .ok { id } else .error (.protocol .emptyChannelId)

def ensureOpen (c : EditChannel) : Checked Unit :=
  if c.closed then .error (.channelClosed c.id.plainText) else .ok ()

/-- What becomes of a message that was read: it is queued, or dropped if it is for another
channel. -/
def accept (c : EditChannel) (m : Message) : Checked (EditChannel × Option Message) :=
  if m.channel ≠ some c.id then .ok (c, none)
  else if m.notice.isFromDocument then .ok ({ c with inbox := c.inbox ++ [m] }, some m)
  else .error (.protocol .hostMessage)

/-- Takes a message from the document. -/
def receive (c : EditChannel) (raw : Json) : Checked (EditChannel × Option Message) := do
  c.ensureOpen
  c.accept (← Message.ofJson raw (some c.id))

/-- Hands over all messages that came in. -/
def drain (c : EditChannel) : Checked (EditChannel × List Message) := do
  c.ensureOpen
  return ({ c with inbox := [] }, c.inbox)

/-- Tells the document whether elements can be selected. -/
def setEditMode (c : EditChannel) (enabled : Bool) : Checked (EditChannel × Message) := do
  c.ensureOpen
  let m : Message := ⟨.editMode enabled, some c.id⟩
  return ({ c with outbox := c.outbox ++ [m] }, m)

/-- Hands over all messages that are to go out. -/
def takeOutbox (c : EditChannel) : EditChannel × List Message :=
  ({ c with outbox := [] }, c.outbox)

/-- Whatever was not read by then is lost. -/
def close (c : EditChannel) : EditChannel := { c with inbox := [], outbox := [], closed := true }

/-- Uses an open channel and closes it afterwards. -/
def use {α : Type} (c : EditChannel) (body : EditChannel → EditChannel × α) :
    Checked (EditChannel × α) := do
  c.ensureOpen
  let (c, result) := body c
  return (c.close, result)

end EditChannel

end Vitae
