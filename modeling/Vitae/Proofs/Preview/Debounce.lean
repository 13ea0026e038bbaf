import Mathlib.Order.Defs.LinearOrder
import Vitae.Proofs.Preview.Workbench

/-!
How long staged edits wait. Edits are pending and the moment they are due is set by different calls,
at times that need not come in order; nevertheless a session always knows when its edits are due,
namely when the last of them has rested for the delay, and a flush goes by that.
-/

namespace Vitae

open Time (Instant)

/-- The time of a call: the one that a host gives, or else what its clock reads. -/
def timeOf {τ : Type} (given : Option τ) (clock : τ) : Checked τ := .ok (given.getD clock)

namespace SessionCall

variable {τ : Type}

/-- The time of a call, for those that go by the time. -/
def now? : SessionCall τ → Option (Checked τ)
  | .stageOverride _ now | .stageRemoval _ now | .flush now _ _ => some now
  | _ => none

/-- The time at which a call stages an edit, if it does. -/
def stagedAt? (call : SessionCall τ) : Option (Checked τ) :=
  if call.edit?.isSome then call.now? else none

/-- A call of a host that has a clock. -/
def HasTime (call : SessionCall τ) : Prop :=
  ∀ now ∈ call.now?, ∃ given clock, now = timeOf given clock

end SessionCall

namespace WorkEvent

variable {τ : Type}

/-- The time at which an event stages an edit, if it does. -/
def stagedAt? : WorkEvent τ → Option (Checked τ)
  | .call asked => asked.stagedAt?
  | _ => none

/-- Tasks ask for no time. -/
def HasTime : WorkEvent τ → Prop
  | .call asked => asked.HasTime
  | _ => True

/-- The time at which the last of some events that stages an edit does so. -/
def lastStaged? (events : List (WorkEvent τ)) : Option (Checked τ) :=
  (events.filterMap stagedAt?).getLast?

theorem lastStaged?_cons (event : WorkEvent τ) (events : List (WorkEvent τ)) :
    lastStaged? (event :: events) = (lastStaged? events).or event.stagedAt? := by
  rw [lastStaged?, ← List.singleton_append, List.filterMap_append, List.getLast?_append]
  cases time : event.stagedAt? <;> simp [time, lastStaged?]

end WorkEvent

namespace EditSession

variable {τ : Type}

/-- A session whose edits wait for as long as those of another. -/
structure WaitsAs (s s' : EditSession τ) : Prop where
  debounce : s'.debounce = s.debounce
  pending : s'.pending = s.pending
  due : s'.due = s.due

theorem waitsAs_refl (s : EditSession τ) : s.WaitsAs s := ⟨rfl, rfl, rfl⟩

/-- What a call with a time does to edits that wait: nothing, or one more of them is staged, or none
is left. -/
inductive Waiting [Add τ] (s : EditSession τ) : Option (Checked τ) → EditSession τ → Prop where
  | rests (s' : EditSession τ) (same : s.WaitsAs s') : Waiting s none s'
  | stages (edit : StagedEdit) (given : Option τ) (clock : τ) :
      Waiting s (some (timeOf given clock)) { s with
        pending := Keyed.upsert StagedEdit.id edit s.pending
        due := some (given.getD clock + s.debounce) }
  | flushes (time : Instant) : Waiting s none (s.commitAll time)

section

variable [Add τ]

theorem waiting_refl (s : EditSession τ) : Waiting s none s := .rests s s.waitsAs_refl

theorem waiting_stage? (s : EditSession τ) {edit : Option StagedEdit} {now : Checked τ}
    (timed : ∃ given clock, now = timeOf given clock) :
    Waiting s (if edit.isSome then some now else none) (s.stage? edit now).1 := by
  obtain ⟨given, clock, rfl⟩ := timed
  cases edit with
  | none => exact s.waiting_refl
  | some edit => exact .stages edit given clock

variable [LT τ] [DecidableLT τ]

theorem waiting_perform (s : EditSession τ) {call : SessionCall τ} (timed : call.HasTime) :
    Waiting s call.stagedAt? (s.perform call).1 := by
  cases call with
  | setEditMode enabled =>
    rw [perform, replying]
    rcases s.setEditMode_cases enabled with ⟨fault, -, same⟩ | ⟨channel, m, -, same⟩
    · rw [same]
      exact .rests _ ⟨rfl, rfl, rfl⟩
    · rw [same]
      exact .rests _ ⟨rfl, rfl, rfl⟩
  | receive raw =>
    rw [perform, replying]
    rcases s.receive_cases raw with ⟨fault, same⟩ | ⟨channel, found, -, same⟩
    · rw [same]
      exact s.waiting_refl
    · rw [same]
      exact .rests _ ⟨rfl, rfl, rfl⟩
  | processMessages =>
    rw [perform, replying]
    rcases s.processMessages_cases with ⟨fault, same⟩ | ⟨channel, messages, -, same⟩
    · rw [same]
      exact s.waiting_refl
    · rw [same]
      exact .rests _ ⟨rfl, rfl, rfl⟩
  | takeOutbox => exact .rests _ ⟨rfl, rfl, rfl⟩
  | stageOverride o now => exact s.waiting_stage? (timed now rfl)
  | stageRemoval id now => exact s.waiting_stage? (timed now rfl)
  | flush now force time =>
    rw [perform, replying]
    rcases s.flush_cases now force time with ⟨fault, same⟩ | same | ⟨-, same⟩
    · rw [same]
      exact s.waiting_refl
    · rw [same]
      exact s.waiting_refl
    · rw [same]
      exact .flushes time
  | updateContent content => exact .rests _ ⟨rfl, rfl, rfl⟩
  | updateStyle style =>
    rw [perform, replying]
    rcases s.updateStyle_cases style with ⟨fault, -, same⟩ | ⟨tokens, -, same⟩
    · rw [same]
      exact s.waiting_refl
    · rw [same]
      exact .rests _ ⟨rfl, rfl, rfl⟩
  | document =>
    rw [perform, replying]
    rcases s.document_cases with ⟨fault, same, -⟩ | ⟨result, -, same⟩ | ⟨result, -, same⟩
    · rw [same]
      exact s.waiting_refl
    · rw [same]
      exact s.waiting_refl
    · rw [same]
      exact .rests _ ⟨rfl, rfl, rfl⟩
  | close => exact .rests _ ⟨rfl, rfl, rfl⟩

/-- A session that knows when its edits are due, given its delay and the time of the last edit. -/
structure KnowsDue (delay : τ) (last : Option (Checked τ)) (s : EditSession τ) : Prop where
  debounce : s.debounce = delay
  set : s.due.isSome = s.hasPending
  due : ∀ moment ∈ s.due, ∃ given clock, last = some (timeOf given clock)
    ∧ moment = given.getD clock + delay

namespace KnowsDue

omit [LT τ] [DecidableLT τ]

variable {delay : τ} {last staged : Option (Checked τ)} {s s' : EditSession τ}

theorem of_start {settings : Settings} {channel : Option EditChannel} {content : Content}
    {style : Checked StyleTokens} {overrides : OverrideSet} {mode : Checked RenderMode}
    (opened : start settings delay channel content style overrides mode = .ok s) :
    s.KnowsDue delay none := by
  obtain ⟨channel, tokens, rendered, -, -, rfl⟩ := eq_of_start opened
  exact ⟨rfl, rfl, fun moment mem => by cases mem⟩

theorem of_waitsAs (h : s.KnowsDue delay last) (same : s.WaitsAs s') :
    s'.KnowsDue delay last where
  debounce := same.debounce.trans h.debounce
  set := by rw [hasPending, same.pending, same.due, h.set, hasPending]
  due := same.due ▸ h.due

theorem of_waiting (h : s.KnowsDue delay last) (step : Waiting s staged s') :
    s'.KnowsDue delay (staged.or last) := by
  cases step with
  | rests _ same => exact h.of_waitsAs same
  | stages edit given clock =>
    refine ⟨h.debounce, ?_, ?_⟩
    · simp [hasPending, Keyed.upsert_ne_nil]
    · rintro moment ⟨⟩
      exact ⟨given, clock, rfl, by rw [h.debounce]⟩
  | flushes time => exact ⟨h.debounce, rfl, fun moment mem => by cases mem⟩

end KnowsDue

end

section

variable [LinearOrder τ] {delay : τ} {last : Option (Checked τ)} {s : EditSession τ}

theorem flush_of_due {moment : τ} (due : s.due = some moment) (staged : s.hasPending)
    (now : τ) (force : Bool) (time : Instant) : s.flush (.ok now) force time
      = if force ∨ moment ≤ now then (s.commitAll time, .ok (some (s.committed time)))
        else (s, .ok none) := by
  unfold flush isEarly
  rw [due, staged]
  cases force with
  | true => simp [orUnchanged, pure, Except.pure, bind, Except.bind]
  | false =>
    by_cases waits : now < moment
    · simp [waits, orUnchanged, pure, Except.pure, bind, Except.bind]
    · simp [waits, le_of_not_gt waits, orUnchanged, pure, Except.pure, bind, Except.bind]

variable [Add τ]

/-- A flush commits what is pending if it is forced or the moment has come, and otherwise does
nothing at all. -/
theorem KnowsDue.perform_flush (h : s.KnowsDue delay last) (given : Option τ) (clock : τ)
    (force : Bool) (time : Instant) : s.perform (.flush (timeOf given clock) force time)
      = if s.hasPending ∧ (force ∨ ∃ moment ∈ s.due, moment ≤ given.getD clock)
        then (s.commitAll time, .ok (.flushed (some (s.committed time))))
        else (s, .ok (.flushed none)) := by
  have set := h.set
  rw [perform, replying, timeOf]
  cases due : s.due with
  | none =>
    have nothing : s.hasPending = false := by simpa [due] using set.symm
    simp [flush, nothing, Except.map]
  | some moment =>
    have staged : s.hasPending := by simpa [due] using set.symm
    rw [flush_of_due due staged]
    by_cases ready : force ∨ moment ≤ given.getD clock
    · simp [staged, ready, Except.map]
    · simp [ready, Except.map]

end

end EditSession

namespace Workbench

variable {τ : Type} [Add τ] [LT τ] [DecidableLT τ] {delay : τ} {last : Option (Checked τ)}

/-- Tasks do not touch edits that wait. -/
theorem knowsDue_step {w : Workbench τ} (h : w.session.KnowsDue delay last) {event : WorkEvent τ}
    (timed : event.HasTime) :
    (w.step event).1.session.KnowsDue delay (event.stagedAt?.or last) := by
  cases event with
  | call call => exact h.of_waiting (w.session.waiting_perform timed)
  | begin kind => exact h
  | proceed ticket =>
    cases found : w.tasks[ticket]? with
    | none =>
      rw [step_proceed_of_none found]
      exact h
    | some task =>
      rw [step_proceed found]
      rcases w.session.advance_cases task with same | ⟨result, -, same⟩
      · rw [same]
        exact h
      · rw [same]
        exact h.of_waitsAs ⟨rfl, rfl, rfl⟩

theorem knowsDue_after {w : Workbench τ} (h : w.session.KnowsDue delay last)
    {events : List (WorkEvent τ)} (timed : ∀ event ∈ events, event.HasTime) :
    (w.after events).session.KnowsDue delay ((WorkEvent.lastStaged? events).or last) := by
  induction events generalizing w last with
  | nil => exact h
  | cons event events ih =>
    rw [WorkEvent.lastStaged?_cons, Option.or_assoc]
    exact ih (knowsDue_step h (timed event List.mem_cons_self))
      fun other mem => timed other (List.mem_cons_of_mem _ mem)

end Workbench

/-- Edits are due when the last of them has rested. Whatever calls and compilations came before, in
a session it is set when edits are due exactly if some are pending, and that is the delay after the
time of the last call that staged one, be it the one it was given or what the clock read. A flush
commits what is pending if it is forced or the moment has come: it puts and takes away the overrides
one by one, hands the set over to be stored, and leaves nothing pending and the next revision. In
every other case it leaves the session as it was and hands nothing over. -/
theorem edits_wait_until_due {τ : Type} [Add τ] [LinearOrder τ] {settings : Settings} {delay : τ}
    {channel : Option EditChannel} {content : Content} {style : Checked StyleTokens}
    {overrides : OverrideSet} {mode : Checked RenderMode} {s : EditSession τ}
    (opened : EditSession.start settings delay channel content style overrides mode = .ok s)
    (events : List (WorkEvent τ)) (timed : ∀ event ∈ events, event.HasTime) :
    let now := ((⟨s, []⟩ : Workbench τ).after events).session
    (now.due.isSome ↔ now.hasPending)
      ∧ (∀ moment ∈ now.due, ∃ given clock,
        WorkEvent.lastStaged? events = some (timeOf given clock)
          ∧ moment = given.getD clock + delay)
      ∧ ∀ given clock force instant,
        let set := (now.pending.map fun edit => edit.at instant).foldl OverrideSet.made
          now.overrides
        now.perform (.flush (timeOf given clock) force instant)
          = if now.hasPending ∧ (force ∨ ∃ moment ∈ now.due, moment ≤ given.getD clock)
            then
              ({ now with
                  overrides := set, pending := [], due := none, revision := now.revision + 1 },
                .ok (.flushed (some set)))
            else (now, .ok (.flushed none)) := by
  intro now
  have h : now.KnowsDue delay ((WorkEvent.lastStaged? events).or none) :=
    Workbench.knowsDue_after (.of_start opened) timed
  rw [Option.or_none] at h
  refine ⟨by rw [h.set], h.due, fun given clock force instant => ?_⟩
  rw [h.perform_flush, EditSession.commitAll, EditSession.committed_eq]

/-- Edits at a time and at what a slower clock reads, with a compilation begun in between. -/
def hurriedEvents : List (WorkEvent Nat) :=
  [.call (.stageRemoval (.text "header-headline") (timeOf (some 1000) 0)), .begin .job,
    .call (.stageRemoval (.text "header-name") (timeOf none 400))]

/-- The edits are due by the later call, although its time is the earlier one. -/
theorem edits_wait_until_due_hurried :
    ∃ s now : EditSession Nat, engineerSession = .ok s
      ∧ (∀ event ∈ hurriedEvents, event.HasTime)
      ∧ now = ((⟨s, []⟩ : Workbench Nat).after hurriedEvents).session ∧ now.due = some 700
      ∧ now.perform (.flush (timeOf none 699) false .epoch) = (now, .ok (.flushed none))
      ∧ now.perform (.flush (timeOf (some 700) 0) false .epoch)
        = ({ now with overrides := .empty, pending := [], due := none, revision := 1 },
          .ok (.flushed (some .empty))) := by
  obtain ⟨s, opened⟩ := Checked.exists_of_isOk isOk_engineerSession
  have timed : ∀ event ∈ hurriedEvents, event.HasTime := by
    rintro event (_ | ⟨_, _ | ⟨_, _ | ⟨_, ⟨⟩⟩⟩⟩)
    · rintro now ⟨⟩
      exact ⟨_, _, rfl⟩
    · trivial
    · rintro now ⟨⟩
      exact ⟨_, _, rfl⟩
  obtain ⟨set, due, flush⟩ := edits_wait_until_due opened hurriedEvents timed
  obtain ⟨channel, tokens, rendered, -, -, fresh⟩ := EditSession.eq_of_start opened
  have moment : ((⟨s, []⟩ : Workbench Nat).after hurriedEvents).session.due = some 700 := by
    rw [fresh]
    rfl
  have some := set.mp (by rw [moment]; rfl)
  -- Both edits take something away, and the headline was all there was.
  have cleared : (((⟨s, []⟩ : Workbench Nat).after hurriedEvents).session.pending.map
      fun edit => edit.at .epoch).foldl OverrideSet.made
        ((⟨s, []⟩ : Workbench Nat).after hurriedEvents).session.overrides = .empty := by
    rw [fresh]
    rfl
  have first : ((⟨s, []⟩ : Workbench Nat).after hurriedEvents).session.revision = 0 := by
    rw [fresh]
    rfl
  refine ⟨s, _, opened, timed, rfl, moment, ?_, ?_⟩
  · rw [flush none 699 false .epoch, moment]
    simp
  · rw [flush (Option.some 700) 0 false .epoch, moment, cleared]
    simp [some, first]

end Vitae
