import Vitae.Preview.Workbench
import Vitae.Proofs.Preview.Versions

/-!
Documents that are compiled while their session is edited. Whatever happens between the steps of a
task, its snapshot stays one of the versions of the session, so what it answers and what it keeps is
right for that version; and a revision counts the commits so far, so a job can tell by it whether
its version is still the present one.
-/

namespace Vitae

namespace EditSession

variable {τ : Type} {s : EditSession τ} {versions : List Snapshot}

/-! The steps of one task -/

theorem HasVersions.lookUp_eq (h : s.HasVersions versions) {v : Snapshot} (mem : v ∈ versions) :
    (s.lookUp v).2 = compile v.content (.ok v.tokens) v.overrides s.options := by
  have text := s.map_html_compileSnapshot v
  unfold lookUp
  cases kept : s.cache.filter fun result => result.revision = v.revision with
  | some result => rwa [h.compileSnapshot_of_kept mem kept] at text
  | none => cases compiled : s.compileSnapshot v <;> rwa [compiled] at text

theorem checkJob_eq (s : EditSession τ) (v : Snapshot) :
    (s.checkJob v).2 = (compile v.content (.ok v.tokens) v.overrides s.options).map
      fun html => (⟨v.revision, html⟩, decide (v.revision ≠ s.revision)) := by
  rw [checkJob, compileSnapshot_eq_map]
  cases compile v.content (.ok v.tokens) v.overrides s.options <;> rfl

theorem compileSnapshot_of_lookUp {v : Snapshot} {result : Compiled}
    (h : (s.lookUp v).1 = .storing result) : s.compileSnapshot v = .ok result := by
  unfold lookUp at h
  split at h
  · cases h
  · cases compiled : s.compileSnapshot v with
    | error fault =>
      rw [compiled] at h
      cases h
    | ok found =>
      rw [compiled] at h
      rw [TaskPhase.storing.inj h]

theorem compileSnapshot_of_checkJob {v : Snapshot} {result : Compiled}
    (h : (s.checkJob v).1 = .storing result) : s.compileSnapshot v = .ok result := by
  unfold checkJob at h
  cases compiled : s.compileSnapshot v with
  | error fault =>
    rw [compiled] at h
    cases h
  | ok found =>
    simp only [compiled] at h
    split at h
    · cases h
    · rw [TaskPhase.storing.inj h]

/-- A task of one of some versions: a result it is about to keep was compiled from one of them. -/
structure Serves (versions : List Snapshot) (s : EditSession τ) (task : Task) : Prop where
  snapshot : task.snapshot ∈ versions
  storing : ∀ result, task.phase = .storing result → s.IsOf versions result

theorem Serves.mono {s' : EditSession τ} {versions' : List Snapshot} {task : Task}
    (h : s.Serves versions task) (more : versions ⊆ versions') (same : s'.options = s.options) :
    s'.Serves versions' task :=
  ⟨more h.snapshot, fun result storing => (h.storing result storing).mono more same⟩

/-- A step of a task changes nothing of a session but what is kept. -/
theorem advance_cases (s : EditSession τ) (task : Task) :
    (s.advance task).1 = s
      ∨ ∃ result, task.phase = .storing result ∧ (s.advance task).1 = s.keep result := by
  obtain ⟨kind, v, phase⟩ := task
  cases phase with
  | waiting => cases kind <;> exact .inl rfl
  | storing result => exact .inr ⟨result, rfl, by cases kind <;> rfl⟩
  | finished => cases kind <;> exact .inl rfl

theorem options_advance (s : EditSession τ) (task : Task) :
    (s.advance task).1.options = s.options := by
  rcases s.advance_cases task with same | ⟨result, -, same⟩
  · rw [same]
  · rw [same]
    rfl

theorem snapshot_advance (s : EditSession τ) (task : Task) :
    (s.advance task).1.snapshot = s.snapshot := by
  rcases s.advance_cases task with same | ⟨result, -, same⟩
  · rw [same]
  · rw [same]
    rfl

theorem HasVersions.advance (h : s.HasVersions versions) {task : Task}
    (serves : s.Serves versions task) : (s.advance task).1.HasVersions versions := by
  rcases s.advance_cases task with same | ⟨result, storing, same⟩
  · rwa [same]
  · rw [same]
    exact h.keep (serves.storing result storing)

theorem Serves.advance {task : Task} (h : s.Serves versions task) :
    s.Serves versions (s.advance task).2.1 := by
  obtain ⟨kind, v, phase⟩ := task
  have mem : v ∈ versions := h.snapshot
  cases phase with
  | waiting =>
    cases kind with
    | document =>
      exact ⟨mem, fun result storing => ⟨v, mem, compileSnapshot_of_lookUp storing⟩⟩
    | job => exact ⟨mem, fun result storing => ⟨v, mem, compileSnapshot_of_checkJob storing⟩⟩
  | storing result =>
    cases kind <;> exact ⟨mem, fun other storing => by cases storing⟩
  | finished => cases kind <;> exact h

theorem lookUp_snapshot (s : EditSession τ) : s.lookUp s.snapshot =
    match s.cached? with
    | some result => (.finished, .ok result.html)
    | none =>
      match s.compileSnapshot s.snapshot with
      | .ok result => (.storing result, .ok result.html)
      | .error fault => (.finished, .error fault) := rfl

/-- A document task that nothing interrupts is a `document` call. -/
theorem document_eq_advance (s : EditSession τ) :
    let first := s.advance ⟨.document, s.snapshot, .waiting⟩
    first.2.2 = some (.document s.document.2) ∧ (first.1.advance first.2.1).1 = s.document.1 := by
  show some (TaskAnswer.document (s.lookUp s.snapshot).2) = _
    ∧ (s.advance ⟨.document, s.snapshot, (s.lookUp s.snapshot).1⟩).1 = _
  rw [lookUp_snapshot, document]
  cases s.cached? with
  | some result => exact ⟨rfl, rfl⟩
  | none => cases s.compileSnapshot s.snapshot <;> exact ⟨rfl, rfl⟩

/-- A job that nothing interrupts is a `runJob`. -/
theorem runJob_eq_advance (s : EditSession τ) (v : Snapshot) :
    let first := s.advance ⟨.job, v, .waiting⟩
    first.2.2 = some (.job (s.runJob v).2) ∧ (first.1.advance first.2.1).1 = (s.runJob v).1 := by
  show some (TaskAnswer.job (s.checkJob v).2) = _ ∧ (s.advance ⟨.job, v, (s.checkJob v).1⟩).1 = _
  rw [checkJob, runJob]
  cases s.compileSnapshot v with
  | error fault => exact ⟨rfl, rfl⟩
  | ok result =>
    refine ⟨rfl, ?_⟩
    show (s.advance ⟨.job, v, if s.isStale result then .finished else .storing result⟩).1
      = if s.isStale result then s else s.keep result
    cases s.isStale result <;> rfl

end EditSession

namespace Workbench

variable {τ : Type} {w : Workbench τ} {versions : List Snapshot}

/-! Runs of events -/

/-- Versions of a session that its tasks are of, too. -/
structure HasVersions (versions : List Snapshot) (w : Workbench τ) : Prop where
  session : w.session.HasVersions versions
  tasks : ∀ task ∈ w.tasks, w.session.Serves versions task

variable [Add τ] [LT τ] [DecidableLT τ]

theorem step_proceed {ticket : Nat} {task : Task} (found : w.tasks[ticket]? = some task) :
    w.step (.proceed ticket)
      = (⟨(w.session.advance task).1, w.tasks.set ticket (w.session.advance task).2.1⟩,
        (w.session.advance task).2.2) := by
  simp only [step, found]

theorem step_proceed_of_none {ticket : Nat} (absent : w.tasks[ticket]? = none) :
    w.step (.proceed ticket) = (w, none) := by
  simp only [step, absent]

theorem options_step (w : Workbench τ) (event : WorkEvent τ) :
    (w.step event).1.session.options = w.session.options := by
  cases event with
  | call call => exact EditSession.options_of_effect (w.session.effect_perform call)
  | begin kind => rfl
  | proceed ticket =>
    cases found : w.tasks[ticket]? with
    | some task =>
      rw [step_proceed found]
      exact w.session.options_advance task
    | none => rw [step_proceed_of_none found]

/-- Only a commit changes what documents are compiled from, and every commit is a new revision. -/
theorem snapshot_step (w : Workbench τ) (event : WorkEvent τ) :
    if w.commitsAt event then (w.step event).1.session.revision = w.session.revision + 1
    else (w.step event).1.session.snapshot = w.session.snapshot := by
  cases event with
  | call call => exact EditSession.snapshot_of_effect (w.session.effect_perform call)
  | begin kind => rfl
  | proceed ticket =>
    show (w.step (.proceed ticket)).1.session.snapshot = w.session.snapshot
    cases found : w.tasks[ticket]? with
    | some task =>
      rw [step_proceed found]
      exact w.session.snapshot_advance task
    | none => rw [step_proceed_of_none found]

/-- A task rests until its own next step. -/
theorem getElem?_step {ticket : Nat} {task : Task} {event : WorkEvent τ}
    (found : w.tasks[ticket]? = some task) (other : event ≠ .proceed ticket) :
    (w.step event).1.tasks[ticket]? = some task := by
  cases event with
  | call call => exact found
  | begin kind =>
    have inside : ticket < w.tasks.length := (List.getElem?_eq_some_iff.mp found).1
    exact (List.getElem?_append_left inside).trans found
  | proceed ticket' =>
    have apart : ticket' ≠ ticket := fun same => other (congrArg _ same)
    cases found' : w.tasks[ticket']? with
    | some task' =>
      rw [step_proceed found']
      exact (List.getElem?_set_ne apart).trans found
    | none => rwa [step_proceed_of_none found']

theorem HasVersions.step (h : w.HasVersions versions) (event : WorkEvent τ) :
    ∃ versions', versions ⊆ versions' ∧ (w.step event).1.HasVersions versions' := by
  cases event with
  | call call =>
    obtain ⟨versions', more, session⟩ := h.session.of_effect (w.session.effect_perform call)
    have same := EditSession.options_of_effect (w.session.effect_perform call)
    exact ⟨versions', more, session, fun task mem => (h.tasks task mem).mono more same⟩
  | begin kind =>
    refine ⟨versions, List.Subset.refl _, h.session, fun task mem => ?_⟩
    rcases List.mem_append.mp mem with mem | mem
    · exact h.tasks task mem
    · obtain rfl := List.mem_singleton.mp mem
      exact ⟨h.session.present, fun result storing => by cases storing⟩
  | proceed ticket =>
    refine ⟨versions, List.Subset.refl _, ?_⟩
    cases found : w.tasks[ticket]? with
    | some task =>
      rw [step_proceed found]
      have serves := h.tasks task (List.mem_of_getElem? found)
      have same := w.session.options_advance task
      refine ⟨h.session.advance serves, fun other mem => ?_⟩
      rcases List.mem_or_eq_of_mem_set mem with mem | rfl
      · exact (h.tasks other mem).mono (List.Subset.refl _) same
      · exact serves.advance.mono (List.Subset.refl _) same
    | none => rwa [step_proceed_of_none found]

theorem HasVersions.after (h : w.HasVersions versions) (events : List (WorkEvent τ)) :
    ∃ versions', versions ⊆ versions' ∧ (w.after events).HasVersions versions' := by
  induction events generalizing w versions with
  | nil => exact ⟨versions, List.Subset.refl _, h⟩
  | cons event events ih =>
    obtain ⟨next, more, h⟩ := h.step event
    obtain ⟨last, rest, h⟩ := ih h
    exact ⟨last, List.Subset.trans more rest, h⟩

theorem options_after (w : Workbench τ) (events : List (WorkEvent τ)) :
    (w.after events).session.options = w.session.options := by
  induction events generalizing w with
  | nil => rfl
  | cons event events ih => exact (ih _).trans (w.options_step event)

theorem revision_after (w : Workbench τ) (events : List (WorkEvent τ)) :
    (w.after events).session.revision = w.session.revision + w.commits events := by
  induction events generalizing w with
  | nil => rfl
  | cons event events ih =>
    have one : (w.step event).1.session.revision
        = w.session.revision + (w.commitsAt event).toNat := by
      have step := w.snapshot_step event
      cases committed : w.commitsAt event with
      | true => simpa [committed] using step
      | false =>
        rw [committed] at step
        exact congrArg Snapshot.revision step
    have rest := ih (w.step event).1
    show ((w.step event).1.after events).session.revision = _
    rw [rest, one, commits, Nat.add_assoc]

theorem snapshot_after (events : List (WorkEvent τ)) (quiet : w.commits events = 0) :
    (w.after events).session.snapshot = w.session.snapshot := by
  induction events generalizing w with
  | nil => rfl
  | cons event events ih =>
    obtain ⟨now, later⟩ := Nat.add_eq_zero_iff.mp quiet
    have step := w.snapshot_step event
    cases committed : w.commitsAt event with
    | true =>
      rw [committed] at now
      cases now
    | false =>
      rw [committed] at step
      exact (ih later).trans step

theorem getElem?_after {ticket : Nat} {task : Task} {events : List (WorkEvent τ)}
    (found : w.tasks[ticket]? = some task) (other : .proceed ticket ∉ events) :
    (w.after events).tasks[ticket]? = some task := by
  induction events generalizing w with
  | nil => exact found
  | cons event events ih =>
    obtain ⟨now, later⟩ := not_or.mp (mt List.mem_cons.mpr other)
    exact ih (getElem?_step found (Ne.symm now)) later

/-- The next step of a task is taken on its snapshot, however much happened since it began. -/
theorem answer_of_begin (w : Workbench τ) (kind : TaskKind) {between : List (WorkEvent τ)}
    (other : .proceed w.tasks.length ∉ between) :
    (((w.step (.begin kind)).1.after between).step (.proceed w.tasks.length)).2
      = (((w.step (.begin kind)).1.after between).session.advance
        ⟨kind, w.session.snapshot, .waiting⟩).2.2 := by
  have begun : (w.step (.begin kind)).1.tasks[w.tasks.length]?
      = some ⟨kind, w.session.snapshot, .waiting⟩ := List.getElem?_concat_length
  rw [step_proceed (getElem?_after begun other)]

theorem HasVersions.answer_document (h : w.HasVersions versions) {between : List (WorkEvent τ)}
    (other : .proceed w.tasks.length ∉ between) :
    (((w.step (.begin .document)).1.after between).step (.proceed w.tasks.length)).2
      = some (.document (compile w.session.content (.ok w.session.tokens) w.session.overrides
          w.session.options)) := by
  obtain ⟨later, more, h'⟩ := h.after (.begin .document :: between)
  have options := w.options_after (.begin .document :: between)
  rw [w.answer_of_begin .document other]
  show some (TaskAnswer.document
    (((w.after (.begin .document :: between)).session.lookUp w.session.snapshot).2)) = _
  rw [h'.session.lookUp_eq (more h.session.present), options]
  rfl

theorem answer_job (w : Workbench τ) {between : List (WorkEvent τ)}
    (other : .proceed w.tasks.length ∉ between) :
    (((w.step (.begin .job)).1.after between).step (.proceed w.tasks.length)).2
      = some (.job ((compile w.session.content (.ok w.session.tokens) w.session.overrides
          w.session.options).map fun html =>
        (⟨w.session.revision, html⟩, decide (0 < w.commits (.begin .job :: between))))) := by
  have options := w.options_after (.begin .job :: between)
  have revision := w.revision_after (.begin .job :: between)
  -- The session has moved on if its revision has, and that counts the commits.
  have moved : w.session.snapshot.revision ≠ (w.after (.begin .job :: between)).session.revision
      ↔ 0 < w.commits (.begin .job :: between) := by
    have same : w.session.snapshot.revision = w.session.revision := rfl
    omega
  rw [w.answer_of_begin .job other]
  show some (TaskAnswer.job
    (((w.after (.begin .job :: between)).session.checkJob w.session.snapshot).2)) = _
  rw [EditSession.checkJob_eq, options, decide_eq_decide.mpr moved]
  rfl

end Workbench

end Vitae
