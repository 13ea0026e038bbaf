import Vitae.Preview.Call

/-!
A session whose documents are compiled while it is edited. A document that is asked for, and a
compilation that is submitted, are tasks: each begins with a snapshot of the session and goes on
later, one step at a time, with anything else in between.
-/

namespace Vitae

inductive TaskKind where
  /-- Somebody waits for the document. -/
  | document
  /-- A compilation that runs by itself and tells in the end whether it is stale. -/
  | job
  deriving DecidableEq, Repr

inductive TaskPhase where
  | waiting
  /-- The result is there and is still to be kept. -/
  | storing (result : Compiled)
  | finished
  deriving DecidableEq, Repr

structure Task where
  kind : TaskKind
  snapshot : Snapshot
  phase : TaskPhase := .waiting

/-- What comes of a task. -/
inductive TaskAnswer where
  | document (document : Checked String)
  | job (result : Checked (Compiled × Bool))

namespace EditSession

variable {τ : Type}

/-- The document of a snapshot: what is kept for its revision, or else compiled and to be kept. -/
def lookUp (s : EditSession τ) (snapshot : Snapshot) : TaskPhase × Checked String :=
  match s.cache.filter fun result => result.revision = snapshot.revision with
  | some result => (.finished, .ok result.html)
  | none =>
    match s.compileSnapshot snapshot with
    | .ok result => (.storing result, .ok result.html)
    | .error fault => (.finished, .error fault)

/-- The result of a job. Compiling reads its snapshot and what never changes of a session, so it is
one step with the check of the revision, after which the result is kept unless it is stale. -/
def checkJob (s : EditSession τ) (snapshot : Snapshot) : TaskPhase × Checked (Compiled × Bool) :=
  match s.compileSnapshot snapshot with
  | .ok result =>
    (if s.isStale result then .finished else .storing result, .ok (result, s.isStale result))
  | .error fault => (.finished, .error fault)

/-- The next step of a task. -/
def advance (s : EditSession τ) (task : Task) : EditSession τ × Task × Option TaskAnswer :=
  match task.phase, task.kind with
  | .waiting, .document =>
    let (phase, document) := s.lookUp task.snapshot
    (s, { task with phase }, some (.document document))
  | .waiting, .job =>
    let (phase, result) := s.checkJob task.snapshot
    (s, { task with phase }, some (.job result))
  | .storing result, _ => (s.keep result, { task with phase := .finished }, none)
  | .finished, _ => (s, task, none)

end EditSession

/-- A session with its tasks in the order in which they began. The place of a task is its ticket. -/
structure Workbench (τ : Type) where
  session : EditSession τ
  tasks : List Task := []

inductive WorkEvent (τ : Type) where
  | call (call : SessionCall τ)
  | begin (kind : TaskKind)
  | proceed (ticket : Nat)

namespace Workbench

variable {τ : Type} [Add τ] [LT τ] [DecidableLT τ]

/-- One event, and what comes of a task by it. -/
def step (w : Workbench τ) (event : WorkEvent τ) : Workbench τ × Option TaskAnswer :=
  match event with
  | .call call => ({ w with session := (w.session.perform call).1 }, none)
  | .begin kind => ({ w with tasks := w.tasks ++ [⟨kind, w.session.snapshot, .waiting⟩] }, none)
  | .proceed ticket =>
    match w.tasks[ticket]? with
    | some task =>
      let (session, task, answer) := w.session.advance task
      (⟨session, w.tasks.set ticket task⟩, answer)
    | none => (w, none)

def after (w : Workbench τ) (events : List (WorkEvent τ)) : Workbench τ :=
  events.foldl (fun w event => (w.step event).1) w

/-- Whether an event commits a change. -/
def commitsAt (w : Workbench τ) (event : WorkEvent τ) : Bool :=
  match event with
  | .call call => call.commits (w.session.perform call).2
  | _ => false

/-- The commits of a run. -/
def commits (w : Workbench τ) : List (WorkEvent τ) → Nat
  | [] => 0
  | event :: events => (w.commitsAt event).toNat + (w.step event).1.commits events

end Workbench

end Vitae
