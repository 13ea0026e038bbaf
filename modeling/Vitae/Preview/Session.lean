import Vitae.Preview.Channel
import Vitae.Settings

/-!
An editing session: the state of one document while its author works on it. Edits of overrides are
staged, and committed once they have rested for a while; every committed change has its revision. A
compiled document is kept for the revision it was compiled from.

Times are of any type that can be added and compared, and a caller may fail to give one. An
operation that can fail says what state it leaves either way.
-/

namespace Vitae

open Time (Instant)

/-- What a document is compiled from, as of one revision. -/
structure Snapshot where
  revision : Nat
  content : Content
  tokens : StyleTokens
  overrides : OverrideSet

structure Compiled where
  revision : Nat
  html : String
  deriving DecidableEq, Repr

/-- A staged edit: the override an element gets, or none to take its override away. -/
structure StagedEdit where
  id : ElementId
  override : Option ElementOverride
  deriving BEq, Repr

def StagedEdit.put (o : ElementOverride) : StagedEdit := ⟨o.id, some o⟩

def StagedEdit.removal (id : ElementId) : StagedEdit := ⟨id, none⟩

/-- The set with an edit made at a time. -/
def OverrideSet.commit (set : OverrideSet) (edit : StagedEdit) (time : Instant) : OverrideSet :=
  match edit.override with
  | some o => set.insert o time
  | none => set.erase edit.id time

/-- The session over times of type `τ`. -/
structure EditSession (τ : Type) where
  settings : Settings
  debounce : τ
  mode : RenderMode
  channel : EditChannel
  content : Content
  tokens : StyleTokens
  overrides : OverrideSet
  editMode : Bool := false
  selection : Option Selection := none
  revision : Nat := 0
  pending : List StagedEdit := []
  due : Option τ := none
  cache : Option Compiled := none

namespace EditSession

variable {τ : Type}

/-- The channel a session is opened on: the one it is given, or one named by its settings. -/
def channelFor (settings : Settings) (given : Option EditChannel) : Checked EditChannel :=
  match given with
  | some c => .ok c
  | none => EditChannel.named (.string settings.channel)

/-- Opens a session. A start without overrides is the empty set, whatever its time. -/
def start (settings : Settings) (debounce : τ) (channel : Option EditChannel) (content : Content)
    (style : Checked StyleTokens) (overrides : OverrideSet) (mode : Checked RenderMode) :
    Checked (EditSession τ) := do
  let channel ← channelFor settings channel
  let tokens ← style
  let mode ← mode
  return {
    settings, debounce, channel, content, tokens, mode
    overrides := if overrides.isEmpty then .empty else overrides }

/-- A failure leaves the session as it was. -/
def orUnchanged {α : Type} (s : EditSession τ) (result : Checked (EditSession τ × α)) :
    EditSession τ × Checked α :=
  match result with
  | .ok (s', a) => (s', .ok a)
  | .error fault => (s, .error fault)

/-- Lets elements be selected, or not; the selection goes with the edit mode. The document hears of
it last. -/
def setEditMode (s : EditSession τ) (enabled : Bool) : EditSession τ × Checked Unit :=
  let s := { s with
    editMode := enabled
    selection := if enabled then s.selection else none }
  s.orUnchanged do
    let (channel, _) ← s.channel.setEditMode enabled
    return ({ s with channel }, ())

def receive (s : EditSession τ) (raw : Json) : EditSession τ × Checked (Option Message) :=
  s.orUnchanged do
    let (channel, m) ← s.channel.receive raw
    return ({ s with channel }, m)

def selectionAfter (selection : Option Selection) (m : Message) : Option Selection :=
  match m.notice with
  | .selected next => some next
  | .deselected => none
  | .editMode _ => selection

/-- Goes through the messages that came in. -/
def processMessages (s : EditSession τ) : EditSession τ × Checked (List Message) :=
  s.orUnchanged do
    let (channel, messages) ← s.channel.drain
    return ({ s with channel, selection := messages.foldl selectionAfter s.selection }, messages)

def takeOutbox (s : EditSession τ) : EditSession τ × List Message :=
  let (channel, messages) := s.channel.takeOutbox
  ({ s with channel }, messages)

def close (s : EditSession τ) : EditSession τ := { s with channel := s.channel.close }

def hasPending (s : EditSession τ) : Bool := !s.pending.isEmpty

/-- Stages an edit at a time. All staged edits wait until the last of them has rested. Without a
time the edit is staged nevertheless, and nothing else changes. -/
def stage [Add τ] (s : EditSession τ) (edit : StagedEdit) (now : Checked τ) :
    EditSession τ × Checked Unit :=
  let s := { s with pending := Keyed.upsert StagedEdit.id edit s.pending }
  s.orUnchanged do return ({ s with due := some ((← now) + s.debounce) }, ())

/-- The overrides with all staged edits made. -/
def committed (s : EditSession τ) (time : Instant) : OverrideSet :=
  s.pending.foldl (fun set edit => set.commit edit time) s.overrides

/-- Whether the staged edits still have to wait, which takes both times to tell. -/
def isEarly [LT τ] [DecidableLT τ] (s : EditSession τ) (now : Checked τ) : Checked Bool :=
  match now, s.due with
  | .ok now, some due => .ok (now < due)
  | _, _ => .error (.misuse .wrongType)

/-- The session after all staged edits are made. -/
def commitAll (s : EditSession τ) (time : Instant) : EditSession τ :=
  { s with overrides := s.committed time, pending := [], due := none, revision := s.revision + 1 }

/-- Commits the staged edits if there are some and they are due, or if that is forced. The result
is the set to be stored, which `time` is the time of. Only a commit that waits looks at the time. -/
def flush [LT τ] [DecidableLT τ] (s : EditSession τ) (now : Checked τ) (force : Bool)
    (time : Instant) : EditSession τ × Checked (Option OverrideSet) :=
  if !s.hasPending then (s, .ok none)
  else s.orUnchanged do
    let waits ← if force then pure false else s.isEarly now
    return if waits then (s, none) else (s.commitAll time, some (s.committed time))

def updateContent (s : EditSession τ) (content : Content) : EditSession τ :=
  { s with content, revision := s.revision + 1 }

def updateStyle (s : EditSession τ) (style : Checked StyleTokens) : EditSession τ × Checked Unit :=
  s.orUnchanged do
    let tokens ← style
    return ({ s with tokens, revision := s.revision + 1 }, ())

def snapshot (s : EditSession τ) : Snapshot := ⟨s.revision, s.content, s.tokens, s.overrides⟩

/-- How the documents of a session are rendered, which never changes. -/
def options (s : EditSession τ) : RenderOptions :=
  { mode := s.mode
    protection :=
      if s.mode = .previewProtected then some { text := s.settings.watermark } else none
    channel := s.channel.id }

def compileSnapshot (s : EditSession τ) (job : Snapshot) : Checked Compiled := do
  let html ← compile job.content (.ok job.tokens) job.overrides s.options
  return ⟨job.revision, html⟩

/-- Keeps a compiled document in place of the one that was kept before. -/
def keep (s : EditSession τ) (result : Compiled) : EditSession τ := { s with cache := some result }

/-- What is kept for the current revision. -/
def cached? (s : EditSession τ) : Option Compiled :=
  s.cache.filter fun result => result.revision = s.revision

/-- The document of the current revision. -/
def document (s : EditSession τ) : EditSession τ × Checked String :=
  match s.cached? with
  | some result => (s, .ok result.html)
  | none => s.orUnchanged do
    let result ← s.compileSnapshot s.snapshot
    return (s.keep result, result.html)

/-- Whether a compiled document is of an earlier revision. -/
def isStale (s : EditSession τ) (result : Compiled) : Bool := result.revision ≠ s.revision

/-- Runs a compilation that was asked for at an earlier state. Its result is kept unless it turns
out stale, which the answer tells. -/
def runJob (s : EditSession τ) (job : Snapshot) : EditSession τ × Checked (Compiled × Bool) :=
  s.orUnchanged do
    let result ← s.compileSnapshot job
    let stale := s.isStale result
    return (if stale then s else s.keep result, (result, stale))

end EditSession

end Vitae
