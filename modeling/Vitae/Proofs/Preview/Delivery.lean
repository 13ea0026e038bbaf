import Vitae.Preview.Exchange
import Vitae.Proofs.Fault

/-!
What a channel delivers. As long as it is open, every message that it accepted is handed over once
or still waits, in the order of arrival, and so is every message that it announced to the document.
A closed channel is empty and stays so.
-/

namespace Vitae

/-! Messages that name no channel -/

namespace Message

variable {members named : List (String × Json)}

theorem textIn_congr (type : Json.getOrNull "type" members = Json.getOrNull "type" named)
    {name : String} (same : Json.get? name members = Json.get? name named) :
    textIn members name = textIn named name := by
  unfold textIn textIn.invalid
  rw [same, type]

theorem noticeIn_congr
    (same : ∀ name ≠ "channel", Json.get? name members = Json.get? name named) :
    noticeIn members = noticeIn named := by
  have orNull : ∀ name ≠ "channel", Json.getOrNull name members = Json.getOrNull name named := by
    intro name other
    rw [Json.getOrNull, Json.getOrNull, same name other]
  have type : Json.getOrNull "type" members = Json.getOrNull "type" named :=
    orNull "type" (by decide)
  have selection : selectionIn members = selectionIn named := by
    unfold selectionIn labelIn
    rw [textIn_congr type (same "elementType" (by decide)), type,
      textIn_congr type (same "elementId" (by decide)), orNull "elementLabel" (by decide)]
  unfold noticeIn
  rw [type, selection, same "enabled" (by decide)]

/-- A message without a channel is read as one that names the channel it is given. -/
theorem ofJson_of_unnamed {name : String} (nonempty : name.isEmpty = false)
    (unnamed : (Json.getOrNull "channel" members).isNull)
    (names : Json.get? "channel" named = some (.string name))
    (same : ∀ key ≠ "channel", Json.get? key members = Json.get? key named) :
    ofJson (.object members) (some (.string name))
      = ofJson (.object named) (some (.string name)) := by
  have given : channelIn members (some (.string name)) = .ok (some (.string name)) := by
    rw [channelIn, if_pos unnamed]
  have read : channelIn named (some (.string name)) = .ok (some (.string name)) := by
    simp [channelIn, Json.getOrNull, textIn, names, nonempty, Json.isNull, Except.map]
  rw [ofJson, ofJson, Checked.bind_of_ok given, Checked.bind_of_ok read, noticeIn_congr same]

end Message

namespace EditChannel

variable {c : EditChannel}

/-- A channel that was opened has its name and nothing in it yet. -/
theorem named_eq_ok {id : Json} : named id = .ok c ↔ id.truthy = true ∧ c = { id } := by
  rw [named]
  split
  · next truthy => simp [truthy, eq_comm]
  · next empty => simp [empty]

theorem ensureOpen_of_open (isOpen : c.closed = false) : c.ensureOpen = .ok () := by
  simp [ensureOpen, isOpen]

theorem ensureOpen_of_closed (isClosed : c.closed = true) :
    c.ensureOpen = .error (.channelClosed c.id.plainText) := by
  simp [ensureOpen, isClosed]

/-- A message that comes in is accepted and goes to the end of the inbox, or it is dropped or
refused and the channel stays as it was. -/
theorem receive_cases (isOpen : c.closed = false) (raw : Json) :
    (∃ m, ChannelCall.admitted? c.id (.receive raw) = some m ∧ c.perform (.receive raw)
        = ({ c with inbox := c.inbox ++ [m] }, .ok (.received (some m))))
      ∨ ChannelCall.admitted? c.id (.receive raw) = none
        ∧ ∃ reply, (reply = .ok (.received none) ∨ ∃ fault, reply = .error fault)
          ∧ c.perform (.receive raw) = (c, reply) := by
  rw [perform, receive, Checked.bind_of_ok (ensureOpen_of_open isOpen), ChannelCall.admitted?]
  cases Message.ofJson raw (some c.id) with
  | error fault => exact .inr ⟨rfl, _, .inr ⟨fault, rfl⟩, rfl⟩
  | ok m =>
    rw [Checked.bind_of_ok rfl, accept, Except.toOption, Option.filter_some]
    by_cases mine : m.channel = some c.id
    · rw [if_neg (not_not_intro mine)]
      cases said : m.notice.isFromDocument with
      | true => exact .inl ⟨m, by simp [mine], rfl⟩
      | false => exact .inr ⟨by simp, _, .inr ⟨_, rfl⟩, rfl⟩
    · rw [if_pos mine]
      exact .inr ⟨by simp [mine], _, .inl rfl, rfl⟩

/-- What a call other than closing does to an open channel, in terms of the messages that it brings
and of those that its reply tells of. -/
structure Carries (c : EditChannel) (call : ChannelCall) : Prop where
  id : (c.perform call).1.id = c.id
  closed : (c.perform call).1.closed = c.closed
  accepted : acceptedIn (c.perform call).2 = (call.admitted? c.id).toList
  announced : announcedIn (c.perform call).2 = (call.announcement? c.id).toList
  inbox : drainedIn (c.perform call).2 ++ (c.perform call).1.inbox
    = c.inbox ++ acceptedIn (c.perform call).2
  outbox : takenIn (c.perform call).2 ++ (c.perform call).1.outbox
    = c.outbox ++ announcedIn (c.perform call).2

/-- The outbox can be taken of a closed channel as well. -/
theorem carries_takeOutbox (c : EditChannel) : c.Carries .takeOutbox := by
  have takes : c.perform .takeOutbox = ({ c with outbox := [] }, .ok (.taken c.outbox)) := rfl
  constructor <;> simp [takes, ChannelCall.admitted?]

theorem carries_perform (isOpen : c.closed = false) {call : ChannelCall} (stays : call ≠ .close) :
    c.Carries call := by
  have ensured : c.ensureOpen = .ok () := ensureOpen_of_open isOpen
  cases call with
  | receive raw =>
    rcases receive_cases isOpen raw with
      ⟨m, admitted, same⟩ | ⟨admitted, reply, rfl | ⟨fault, rfl⟩, same⟩
    all_goals constructor <;> simp [same, admitted]
  | drain =>
    have drains : c.perform .drain = ({ c with inbox := [] }, .ok (.drained c.inbox)) := by
      rw [perform, drain, Checked.bind_of_ok ensured]
      rfl
    constructor <;> simp [drains, ChannelCall.admitted?]
  | setEditMode enabled =>
    have announces : c.perform (.setEditMode enabled)
        = ({ c with outbox := c.outbox ++ [⟨.editMode enabled, some c.id⟩] },
          .ok (.announced ⟨.editMode enabled, some c.id⟩)) := by
      rw [perform, setEditMode, Checked.bind_of_ok ensured]
      rfl
    constructor <;> simp [announces, ChannelCall.admitted?]
  | takeOutbox => exact c.carries_takeOutbox
  | close => exact absurd rfl stays

/-! Runs of an open channel -/

theorem run_append (c : EditChannel) (calls later : List ChannelCall) :
    c.run (calls ++ later) = (c.run calls).run later := List.foldl_append

/-- A run that keeps all messages: those that came in are handed over or still wait, and those that
are to go out as well. -/
structure Keeps (c : EditChannel) (calls : List ChannelCall) : Prop where
  accepted : (c.replies calls).flatMap acceptedIn = calls.filterMap (·.admitted? c.id)
  announced : (c.replies calls).flatMap announcedIn = calls.filterMap (·.announcement? c.id)
  inbox : (c.replies calls).flatMap drainedIn ++ (c.run calls).inbox
    = c.inbox ++ (c.replies calls).flatMap acceptedIn
  outbox : (c.replies calls).flatMap takenIn ++ (c.run calls).outbox
    = c.outbox ++ (c.replies calls).flatMap announcedIn

theorem keeps_run (isOpen : c.closed = false) {calls : List ChannelCall} (stays : .close ∉ calls) :
    c.Keeps calls := by
  induction calls generalizing c with
  | nil => constructor <;> simp [replies, run]
  | cons call calls ih =>
    have step : c.Carries call := carries_perform isOpen fun same => stays (by simp [same])
    -- the rest of the run begins with the channel that the first call leaves, which is open too
    have rest : (c.perform call).1.Keeps calls :=
      ih (step.closed.trans isOpen) fun mem => stays (List.mem_cons_of_mem _ mem)
    have run : c.run (call :: calls) = (c.perform call).1.run calls := rfl
    have front (f : ChannelCall → Option Message) :
        (call :: calls).filterMap f = (f call).toList ++ calls.filterMap f := by
      cases found : f call <;> simp [found]
    constructor
    · rw [replies, List.flatMap_cons, step.accepted, rest.accepted, step.id, front]
    · rw [replies, List.flatMap_cons, step.announced, rest.announced, step.id, front]
    · rw [replies, List.flatMap_cons, List.flatMap_cons, run, List.append_assoc, rest.inbox,
        ← List.append_assoc, step.inbox, List.append_assoc]
    · rw [replies, List.flatMap_cons, List.flatMap_cons, run, List.append_assoc, rest.outbox,
        ← List.append_assoc, step.outbox, List.append_assoc]

/-! Closed channels -/

theorem perform_of_closed (isClosed : c.closed = true) {call : ChannelCall} (stays : call ≠ .close)
    (takes : call ≠ .takeOutbox) :
    c.perform call = (c, .error (.channelClosed c.id.plainText)) := by
  have refused : c.ensureOpen = .error (.channelClosed c.id.plainText) :=
    ensureOpen_of_closed isClosed
  cases call with
  | receive raw => rw [perform, receive, Checked.bind_of_error refused, replying]
  | drain => rw [perform, drain, Checked.bind_of_error refused, replying]
  | setEditMode enabled => rw [perform, setEditMode, Checked.bind_of_error refused, replying]
  | takeOutbox => exact absurd rfl takes
  | close => exact absurd rfl stays

/-- A call closes the channel, moves messages or is refused. -/
theorem perform_cases (c : EditChannel) (call : ChannelCall) :
    c.perform call = (c.close, .ok .closed)
      ∨ c.Carries call
      ∨ c.perform call = (c, .error (.channelClosed c.id.plainText)) := by
  by_cases stays : call = .close
  · rw [stays]
    exact .inl rfl
  · cases state : c.closed with
    | false => exact .inr (.inl (carries_perform state stays))
    | true =>
      by_cases takes : call = .takeOutbox
      · rw [takes]
        exact .inr (.inl c.carries_takeOutbox)
      · exact .inr (.inr (perform_of_closed state stays takes))

theorem id_perform (c : EditChannel) (call : ChannelCall) : (c.perform call).1.id = c.id := by
  rcases c.perform_cases call with closes | carries | refused
  · rw [closes]
    rfl
  · exact carries.id
  · rw [refused]

theorem id_run (c : EditChannel) (calls : List ChannelCall) : (c.run calls).id = c.id := by
  induction calls generalizing c with
  | nil => rfl
  | cons call calls ih => exact (ih _).trans (c.id_perform call)

/-- A message that is not accepted changes nothing. -/
theorem perform_of_not_accepted (c : EditChannel) {raw : Json}
    (unaccepted : acceptedIn (c.perform (.receive raw)).2 = []) :
    (c.perform (.receive raw)).1 = c := by
  cases state : c.closed with
  | true => rw [perform_of_closed state (by simp) (by simp)]
  | false =>
    rcases receive_cases state raw with ⟨m, -, same⟩ | ⟨-, reply, -, same⟩
    · simp [same] at unaccepted
    · rw [same]

/-- A closed channel in which nothing is left. -/
structure IsShut (c : EditChannel) : Prop where
  closed : c.closed = true
  inbox : c.inbox = []
  outbox : c.outbox = []

/-- The replies of a closed channel with this name, none of which tells of a message. -/
def IsIdle (id : Json) (reply : Checked ChannelReply) : Prop :=
  reply = .ok .closed ∨ reply = .ok (.taken []) ∨ reply = .error (.channelClosed id.plainText)

theorem isShut_close (c : EditChannel) : c.close.IsShut := ⟨rfl, rfl, rfl⟩

theorem perform_of_isShut (shut : c.IsShut) (call : ChannelCall) :
    ∃ reply, c.perform call = (c, reply) ∧ IsIdle c.id reply := by
  obtain ⟨id, inbox, outbox, closed⟩ := c
  obtain ⟨rfl, rfl, rfl⟩ := shut
  by_cases stays : call = .close
  · rw [stays]
    exact ⟨_, rfl, .inl rfl⟩
  · by_cases takes : call = .takeOutbox
    · rw [takes]
      exact ⟨_, rfl, .inr (.inl rfl)⟩
    · exact ⟨_, perform_of_closed rfl stays takes, .inr (.inr rfl)⟩

theorem run_of_isShut (shut : c.IsShut) (calls : List ChannelCall) :
    c.run calls = c ∧ ∀ reply ∈ c.replies calls, IsIdle c.id reply := by
  induction calls with
  | nil => exact ⟨rfl, by simp [replies]⟩
  | cons call calls ih =>
    obtain ⟨reply, same, idle⟩ := perform_of_isShut shut call
    have run : c.run (call :: calls) = c.run calls := by
      simp only [EditChannel.run, List.foldl_cons, same]
    refine ⟨run.trans ih.1, ?_⟩
    simpa only [replies, same, List.forall_mem_cons] using ⟨idle, ih.2⟩

/-! Any run -/

theorem of_admitted {id : Json} {call : ChannelCall} {m : Message}
    (admitted : call.admitted? id = some m) :
    m.channel = some id ∧ m.notice.isFromDocument = true := by
  cases call with
  | receive raw => simpa using (Option.filter_eq_some_iff.mp admitted).2
  | _ => cases admitted

theorem admitted_of_accepted (c : EditChannel) {call : ChannelCall} {m : Message}
    (accepted : m ∈ acceptedIn (c.perform call).2) : call.admitted? c.id = some m := by
  rcases c.perform_cases call with closes | carries | refused
  · rw [closes] at accepted
    cases accepted
  · rw [carries.accepted] at accepted
    exact Option.mem_toList.mp accepted
  · rw [refused] at accepted
    cases accepted

/-- A channel accepts nothing but messages of the document that are on it. -/
theorem of_accepted (c : EditChannel) {calls : List ChannelCall} {m : Message}
    (accepted : m ∈ (c.replies calls).flatMap acceptedIn) :
    m.channel = some c.id ∧ m.notice.isFromDocument = true := by
  induction calls generalizing c with
  | nil => cases accepted
  | cons call calls ih =>
    rw [replies, List.flatMap_cons] at accepted
    rcases List.mem_append.mp accepted with first | later
    · exact of_admitted (c.admitted_of_accepted first)
    · exact c.id_perform call ▸ ih _ later

/-- A raw message without a channel is treated as one that names the channel it comes to. -/
theorem perform_of_unnamed {name : String} (id : c.id = .string name)
    (nonempty : name.isEmpty = false) {members named : List (String × Json)}
    (unnamed : (Json.getOrNull "channel" members).isNull)
    (names : Json.get? "channel" named = some (.string name))
    (same : ∀ key ≠ "channel", Json.get? key members = Json.get? key named) :
    c.perform (.receive (.object members)) = c.perform (.receive (.object named)) := by
  have read : Message.ofJson (.object members) (some c.id)
      = Message.ofJson (.object named) (some c.id) := by
    rw [id]
    exact Message.ofJson_of_unnamed nonempty unnamed names same
  rw [perform, perform, receive, receive, read]

/-- A channel delivers what it is given. As long as it is not closed, the messages that were
drained, followed by those in the inbox, are the messages that were accepted, which are those of the
document that are on this channel, and the messages that were taken, followed by those in the
outbox, are those that tell of the edit mode. In any run, all that is accepted is on this channel
and from the document, a raw message that names no channel is treated as one that names this
channel, and one that is not accepted changes nothing. Once the channel is closed it is empty, and
no reply tells of a message. -/
theorem delivers_all {id : Json} {c : EditChannel} (opened : named id = .ok c)
    (calls : List ChannelCall) :
    (.close ∉ calls →
      (c.replies calls).flatMap drainedIn ++ (c.run calls).inbox
          = (c.replies calls).flatMap acceptedIn
        ∧ (c.replies calls).flatMap acceptedIn = calls.filterMap (·.admitted? id)
        ∧ (c.replies calls).flatMap takenIn ++ (c.run calls).outbox
          = (c.replies calls).flatMap announcedIn
        ∧ (c.replies calls).flatMap announcedIn = calls.filterMap (·.announcement? id))
      ∧ (∀ m ∈ (c.replies calls).flatMap acceptedIn,
        m.channel = some id ∧ m.notice.isFromDocument = true)
      ∧ (∀ name members naming, id = .string name →
        (Json.getOrNull "channel" members).isNull →
        Json.get? "channel" naming = some (.string name) →
        (∀ key ≠ "channel", Json.get? key members = Json.get? key naming) →
          (c.run calls).perform (.receive (.object members))
            = (c.run calls).perform (.receive (.object naming)))
      ∧ (∀ raw, acceptedIn ((c.run calls).perform (.receive raw)).2 = [] →
        ((c.run calls).perform (.receive raw)).1 = c.run calls)
      ∧ ∀ later, (c.run (calls ++ .close :: later)).IsShut
        ∧ ∀ reply ∈ (c.run (calls ++ [.close])).replies later, IsIdle id reply := by
  obtain ⟨truthy, fresh⟩ := named_eq_ok.mp opened
  have isOpen : c.closed = false := by rw [fresh]
  have named : c.id = id := by rw [fresh]
  subst id
  refine ⟨fun stays => ?_, fun m => c.of_accepted, ?_, fun raw => perform_of_not_accepted _, ?_⟩
  · have kept : c.Keeps calls := keeps_run isOpen stays
    have nothing : c.inbox = [] ∧ c.outbox = [] := by rw [fresh]; exact ⟨rfl, rfl⟩
    refine ⟨?_, kept.accepted, ?_, kept.announced⟩
    · rw [kept.inbox, nothing.1, List.nil_append]
    · rw [kept.outbox, nothing.2, List.nil_append]
  · intro name members naming text unnamed names same
    have nonempty : name.isEmpty = false := by
      rw [text] at truthy
      simpa [Json.truthy] using truthy
    exact perform_of_unnamed ((c.id_run calls).trans text) nonempty unnamed names same
  · intro later
    have closing : c.run (calls ++ [.close]) = (c.run calls).close := c.run_append calls [.close]
    have shut : (c.run (calls ++ [.close])).IsShut := closing ▸ (c.run calls).isShut_close
    obtain ⟨still, idle⟩ := run_of_isShut shut later
    rw [id_run] at idle
    rw [List.append_cons, run_append, still]
    exact ⟨shut, idle⟩

end EditChannel

/-- The document says which element was selected, then something on another channel, and then that
none is selected any more; in between its host turns the edit mode on. -/
def previewCalls : List ChannelCall :=
  [.receive (.object [("type", .string "elementSelected"), ("elementId", .string "summary"),
      ("elementType", .string "summary")]),
    .setEditMode true,
    .receive (.object [("type", .string "elementDeselected"), ("channel", .string "other")]),
    .drain, .takeOutbox,
    .receive (.object [("type", .string "elementDeselected"), ("channel", .string "cv-preview")])]

theorem delivers_all_preview :
    ∃ c, EditChannel.named (.string "cv-preview") = .ok c
      ∧ (c.replies previewCalls).flatMap drainedIn ++ (c.run previewCalls).inbox
        = [⟨.selected ⟨"summary", .summary, ""⟩, some (.string "cv-preview")⟩,
          ⟨.deselected, some (.string "cv-preview")⟩]
      ∧ (c.replies previewCalls).flatMap takenIn ++ (c.run previewCalls).outbox
        = [⟨.editMode true, some (.string "cv-preview")⟩]
      ∧ (c.run (previewCalls ++ .close :: previewCalls)).IsShut := by
  have opened : EditChannel.named (.string "cv-preview") = .ok { id := .string "cv-preview" } := rfl
  obtain ⟨keeps, -, -, -, closes⟩ := EditChannel.delivers_all opened previewCalls
  obtain ⟨inbox, accepted, outbox, announced⟩ := keeps (by decide)
  refine ⟨_, opened, ?_, ?_, (closes previewCalls).1⟩
  · rw [inbox, accepted]
    decide +kernel
  · rw [outbox, announced]
    rfl

end Vitae
