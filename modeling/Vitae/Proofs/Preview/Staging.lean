import Mathlib.Logic.Function.Basic
import Vitae.Proofs.Preview.Versions

/-!
Staged edits against edits that are made at once. Staging keeps one edit for an element, in the
place of its first one, and a commit makes what is kept in one batch. As maps from elements to their
overrides the sets are nevertheless those of all edits made one by one in the order of the calls.
-/

namespace Vitae

open Time (Instant)

/-! Edits of a map -/

/-- Whether the override that an edit gives is one for its element. -/
def StagedEdit.Fits (edit : StagedEdit) : Prop := ∀ o ∈ edit.override, o.id = edit.id

theorem StagedEdit.fits_put (o : ElementOverride) : (StagedEdit.put o).Fits := by
  intro other mem
  obtain rfl : o = other := Option.some.inj mem
  rfl

theorem StagedEdit.fits_removal (id : ElementId) : (StagedEdit.removal id).Fits := by
  intro o mem
  cases mem

/-- The edit that asks for a step. -/
def OverrideStep.edit : OverrideStep → StagedEdit
  | .put o _ => .put o
  | .remove id _ => .removal id

theorem StagedEdit.Fits.edit_at {edit : StagedEdit} (fits : edit.Fits) (time : Instant) :
    (edit.at time).edit = edit := by
  obtain ⟨id, override⟩ := edit
  cases override with
  | none => rfl
  | some o =>
    obtain rfl : o.id = id := fits o rfl
    rfl

/-- Edits can be made step by step. -/
theorem StagedEdit.map_edit_at {edits : List StagedEdit} (fit : ∀ edit ∈ edits, edit.Fits)
    (time : Instant) : (edits.map fun edit => edit.at time).map OverrideStep.edit = edits := by
  rw [List.map_map]
  exact (List.map_congr_left fun edit mem => (fit edit mem).edit_at time).trans (List.map_id _)

/-- The overrides of all elements after some edits. -/
def makeAll (overrides : ElementId → Option ElementOverride) (edits : List StagedEdit) :
    ElementId → Option ElementOverride :=
  edits.foldl (fun all edit => Function.update all edit.id edit.override) overrides

variable {overrides : ElementId → Option ElementOverride} {edit : StagedEdit}
  {edits : List StagedEdit}

theorem makeAll_append (more : List StagedEdit) :
    makeAll overrides (edits ++ more) = makeAll (makeAll overrides edits) more :=
  List.foldl_append

/-- Of edits of distinct elements each decides about its own. -/
theorem makeAll_of_nodup (distinct : (edits.map StagedEdit.id).Nodup) (id : ElementId) :
    makeAll overrides edits id
      = ((Keyed.find? StagedEdit.id id edits).map StagedEdit.override).getD (overrides id) := by
  induction edits generalizing overrides with
  | nil => rfl
  | cons edit rest ih =>
    obtain ⟨once, distinct⟩ := List.nodup_cons.mp distinct
    show makeAll (Function.update overrides edit.id edit.override) rest id = _
    rw [ih distinct]
    unfold Keyed.find?
    by_cases own : edit.id = id
    · have others : rest.find? (fun other => other.id = id) = none := by
        rw [List.find?_eq_none]
        intro other mem same
        exact once (List.mem_map.mpr ⟨other, mem, (of_decide_eq_true same).trans own.symm⟩)
      simp [others, own]
    · simp [own, Function.update_of_ne (Ne.symm own)]

/-- To stage an edit comes to the same as to make it last, although it takes the place of an earlier
one. -/
theorem makeAll_upsert (distinct : (edits.map StagedEdit.id).Nodup) :
    makeAll overrides (Keyed.upsert StagedEdit.id edit edits)
      = makeAll overrides (edits ++ [edit]) := by
  funext id
  rw [makeAll_of_nodup (Keyed.nodup_upsert distinct), Keyed.find?_upsert, makeAll_append]
  show _ = Function.update (makeAll overrides edits) edit.id edit.override id
  by_cases own : edit.id = id
  · simp [own]
  · rw [if_neg own, Function.update_of_ne (Ne.symm own), makeAll_of_nodup distinct]

namespace OverrideSet

theorem get?_made_eq_update (set : OverrideSet) (a : OverrideStep) :
    (set.made a).get? = Function.update set.get? a.edit.id a.edit.override := by
  have own : a.edit.id = a.id ∧ a.edit.override = a.outcome := by cases a <;> exact ⟨rfl, rfl⟩
  funext id
  rw [get?_made, own.1, own.2, Function.update_apply]
  simp only [eq_comm]

theorem get?_foldl_made_eq_makeAll (set : OverrideSet) (steps : List OverrideStep) :
    (steps.foldl made set).get? = makeAll set.get? (steps.map OverrideStep.edit) := by
  induction steps generalizing set with
  | nil => rfl
  | cons a steps ih =>
    have later := ih (set.made a)
    rw [set.get?_made_eq_update] at later
    exact later

/-- An empty set is as good as any other as a map. -/
theorem agrees_empty {set : OverrideSet} (h : set.isEmpty) : OverrideSet.empty.Agrees set := by
  have none : set.entries = [] := List.isEmpty_iff.mp h
  intro id
  simp [get?, none, empty]

end OverrideSet

/-! What a run of calls stages -/

/-- What was staged up to the last commit, what was staged after it, and the sets that the commits
handed over to be stored. -/
structure StagingLog where
  flushed : List StagedEdit := []
  waiting : List StagedEdit := []
  stored : List OverrideSet := []

def StagingLog.note {τ : Type} (log : StagingLog) (call : SessionCall τ)
    (reply : Checked SessionReply) : StagingLog :=
  match storedIn reply with
  | some set => ⟨log.flushed ++ log.waiting, [], log.stored ++ [set]⟩
  | none => { log with waiting := log.waiting ++ call.edit?.toList }

theorem SessionCall.fits_edit? {τ : Type} {call : SessionCall τ} (h : call.edit? = some edit) :
    edit.Fits := by
  unfold edit? at h
  split at h
  · split at h
    · cases h
      exact StagedEdit.fits_put _
    · cases h
  · split at h
    · cases h
      exact StagedEdit.fits_removal _
    · cases h
  · cases h

namespace EditSession

variable {τ : Type} {s s' : EditSession τ}

/-- A session is opened with the overrides it is given, as a map. -/
theorem agrees_of_start {settings : Settings} {debounce : τ} {given : Option EditChannel}
    {content : Content} {style : Checked StyleTokens} {overrides : OverrideSet}
    {mode : Checked RenderMode}
    (opened : start settings debounce given content style overrides mode = .ok s) :
    s.overrides.Agrees overrides := by
  obtain ⟨channel, tokens, rendered, -, -, fresh⟩ := eq_of_start opened
  rw [fresh]
  cases nothing : overrides.isEmpty with
  | true => exact OverrideSet.agrees_empty nothing
  | false => exact fun id => rfl

/-- A log that tells what a session has become of a set of overrides: what was flushed makes its
overrides, and what waits makes the same of them as what is pending. -/
structure IsLogged (start : OverrideSet) (log : StagingLog) (s : EditSession τ) : Prop where
  fit : ∀ edit ∈ log.flushed ++ log.waiting, edit.Fits
  pendingFit : ∀ edit ∈ s.pending, edit.Fits
  distinct : (s.pending.map StagedEdit.id).Nodup
  overrides : s.overrides.get? = makeAll start.get? log.flushed
  pending : ∀ all, makeAll all s.pending = makeAll all log.waiting
  waiting : s.pending = [] ↔ log.waiting = []
  stored : s.overrides = log.stored.getLastD start

namespace IsLogged

theorem of_start {settings : Settings} {debounce : τ} {given : Option EditChannel}
    {content : Content} {style : Checked StyleTokens} {overrides : OverrideSet}
    {mode : Checked RenderMode}
    (opened : EditSession.start settings debounce given content style overrides mode = .ok s) :
    s.IsLogged s.overrides {} := by
  obtain ⟨channel, tokens, rendered, -, -, fresh⟩ := eq_of_start opened
  have none : s.pending = [] := by rw [fresh]
  exact {
    fit := by simp
    pendingFit := by simp [none]
    distinct := by simp [none]
    overrides := rfl
    pending := by simp [none]
    waiting := by simp [none]
    stored := rfl }

variable {start other : OverrideSet} {log : StagingLog}

/-- The overrides are what the flushed edits make one by one, of any set that agrees with the
first. -/
theorem agrees (h : s.IsLogged start log) (same : start.Agrees other)
    {steps : List OverrideStep} (made : steps.map OverrideStep.edit = log.flushed) :
    s.overrides.Agrees (steps.foldl OverrideSet.made other) := by
  intro id
  rw [h.overrides, other.get?_foldl_made_eq_makeAll, made, funext same]

/-- The edits that are pending make of the present overrides what all edits make of the first. -/
theorem get?_committed (h : s.IsLogged start log) (time : Instant) :
    (s.committed time).get? = makeAll start.get? (log.flushed ++ log.waiting) := by
  rw [s.committed_eq, OverrideSet.get?_foldl_made_eq_makeAll,
    StagedEdit.map_edit_at h.pendingFit time, h.pending, h.overrides, makeAll_append]

/-- What was staged can be made step by step. -/
theorem exists_steps (h : s.IsLogged start log) :
    ∃ steps : List OverrideStep, steps.map OverrideStep.edit = log.flushed ++ log.waiting :=
  ⟨_, StagedEdit.map_edit_at h.fit .epoch⟩

theorem of_rest (h : s.IsLogged start log) (overrides : s'.overrides = s.overrides)
    (pending : s'.pending = s.pending) : s'.IsLogged start log where
  fit := h.fit
  pendingFit := pending ▸ h.pendingFit
  distinct := pending ▸ h.distinct
  overrides := overrides ▸ h.overrides
  pending := pending ▸ h.pending
  waiting := pending ▸ h.waiting
  stored := overrides.trans h.stored

theorem of_stage (h : s.IsLogged start log) {edit : StagedEdit} (fits : edit.Fits)
    (overrides : s'.overrides = s.overrides)
    (pending : s'.pending = Keyed.upsert StagedEdit.id edit s.pending) :
    s'.IsLogged start { log with waiting := log.waiting ++ [edit] } where
  fit := by
    intro other mem
    rcases List.mem_append.mp mem with mem | mem
    · exact h.fit other (List.mem_append_left _ mem)
    · rcases List.mem_append.mp mem with mem | mem
      · exact h.fit other (List.mem_append_right _ mem)
      · obtain rfl := List.mem_singleton.mp mem
        exact fits
  pendingFit := by
    rw [pending]
    intro other mem
    rcases Keyed.eq_or_mem_of_mem_upsert mem with rfl | mem
    · exact fits
    · exact h.pendingFit other mem
  distinct := by
    rw [pending]
    exact Keyed.nodup_upsert h.distinct
  overrides := by rw [overrides, h.overrides]
  pending := by
    intro all
    rw [pending, makeAll_upsert h.distinct, makeAll_append, h.pending, ← makeAll_append]
  waiting := by
    rw [pending]
    simp [Keyed.upsert_ne_nil]
  stored := overrides.trans h.stored

theorem of_flush (h : s.IsLogged start log) (time : Instant) :
    (s.commitAll time).IsLogged start
      ⟨log.flushed ++ log.waiting, [], log.stored ++ [s.committed time]⟩ where
  fit := by simpa using h.fit
  pendingFit := by simp [commitAll]
  distinct := by simp [commitAll]
  overrides := h.get?_committed time
  pending := fun _ => rfl
  waiting := by simp [commitAll]
  stored := by simp [commitAll]

theorem of_effect (h : s.IsLogged start log) {committed : Bool} {call : SessionCall τ}
    {reply : Checked SessionReply}
    (effect : Effect s committed call.edit? (storedIn reply) s') :
    s'.IsLogged start (log.note call reply) := by
  have unstaged {s'' : EditSession τ} (h : s''.IsLogged start log) :
      s''.IsLogged start { log with waiting := log.waiting ++ [] } := by
    rwa [List.append_nil]
  unfold StagingLog.note
  generalize staged : call.edit? = edit? at effect
  generalize storedIn reply = stored at effect
  cases effect with
  | rests _ same pending =>
    exact unstaged (h.of_rest (congrArg Snapshot.overrides same.snapshot) pending)
  | stages edit _ same pending =>
    exact h.of_stage (SessionCall.fits_edit? staged)
      (congrArg Snapshot.overrides same.snapshot) pending
  | keeps result compiled => exact unstaged (h.of_rest rfl rfl)
  | flushes time => exact h.of_flush time
  | updates content tokens => exact unstaged (h.of_rest rfl rfl)

end IsLogged

variable [Add τ] [LT τ] [DecidableLT τ] {start other : OverrideSet} {log : StagingLog}

/-- The log of a run of calls, which goes on with an earlier one. -/
def logAfter (s : EditSession τ) (log : StagingLog) : List (SessionCall τ) → StagingLog
  | [] => log
  | call :: calls => (s.perform call).1.logAfter (log.note call (s.perform call).2) calls

theorem IsLogged.run (h : s.IsLogged start log) (calls : List (SessionCall τ)) :
    (s.run calls).IsLogged start (s.logAfter log calls) := by
  induction calls generalizing s log with
  | nil => exact h
  | cons call calls ih => exact ih (h.of_effect (s.effect_perform call))

theorem overrides_of_flush {now : Checked τ} {force : Bool} {time : Instant} {stored : OverrideSet}
    (h : storedIn (s.perform (.flush now force time)).2 = some stored) :
    (s.perform (.flush now force time)).1.revision = s.revision + 1
      ∧ (s.perform (.flush now force time)).1.overrides = stored := by
  rw [perform] at h ⊢
  rcases s.flush_cases now force time with ⟨fault, same⟩ | same | ⟨-, same⟩
  · rw [same] at h
    cases h
  · rw [same] at h
    cases h
  · rw [same] at h ⊢
    exact ⟨rfl, Option.some.inj h⟩

/-- A forced flush leaves nothing waiting. -/
theorem IsLogged.flushed_of_force (h : s.IsLogged start log) (now : Checked τ) (time : Instant) :
    (log.note (.flush now true time) (s.perform (.flush now true time)).2).flushed
      = log.flushed ++ log.waiting := by
  rw [perform, flush_of_force]
  cases some? : s.hasPending with
  | true => rfl
  | false =>
    -- Nothing is committed, but nothing waits either.
    have none : s.pending = [] := by simpa [hasPending] using some?
    rw [h.waiting.mp none, List.append_nil]
    rfl

/-- After a forced flush the document is that of all edits, made one by one. -/
theorem IsLogged.document_of_force (h : s.IsLogged start log) (same : start.Agrees other)
    {versions : List Snapshot} (known : s.HasVersions versions) (now : Checked τ) (time : Instant)
    {steps : List OverrideStep}
    (made : steps.map OverrideStep.edit = log.flushed ++ log.waiting) :
    ((s.perform (.flush now true time)).1.perform .document).2
      = (compile s.content (.ok s.tokens) (steps.foldl OverrideSet.made other) s.options).map
        .compiled := by
  -- The sets differ in the order of their entries, which no document depends on.
  obtain ⟨versions, -, known⟩ := known.of_effect (s.effect_perform (.flush now true time))
  have options := options_of_effect (s.effect_perform (.flush now true time))
  have logged := h.of_effect (s.effect_perform (.flush now true time))
  have agree := logged.agrees same (made.trans (h.flushed_of_force now time).symm)
  have rest : (s.perform (.flush now true time)).1.content = s.content
      ∧ (s.perform (.flush now true time)).1.tokens = s.tokens := by
    rw [perform, flush_of_force]
    cases s.hasPending <;> exact ⟨rfl, rfl⟩
  rw [known.reply_document, options, rest.1, rest.2, compile_congr agree]

/-- Staging loses no edit. At every moment the overrides of a session are those it was opened with
after all edits that were staged before the last commit, put and taken away one by one in the order
of the calls; something is pending exactly if an edit was staged since. They are the set that was
last handed over to be stored, and a flush that hands one over makes it the overrides and is the
next revision. After a forced flush the document is that of all edits so far, made one by one. -/
theorem staging_loses_nothing {settings : Settings} {debounce : τ} {given : Option EditChannel}
    {content : Content} {style : Checked StyleTokens} {overrides : OverrideSet}
    {mode : Checked RenderMode}
    (opened : EditSession.start settings debounce given content style overrides mode = .ok s)
    (calls : List (SessionCall τ)) :
    let now := s.run calls
    let log := s.logAfter {} calls
    (∃ steps : List OverrideStep, steps.map OverrideStep.edit = log.flushed ++ log.waiting)
      ∧ (∀ steps : List OverrideStep, steps.map OverrideStep.edit = log.flushed →
        now.overrides.Agrees (steps.foldl OverrideSet.made overrides))
      ∧ (now.hasPending ↔ log.waiting ≠ [])
      ∧ now.overrides = log.stored.getLastD s.overrides
      ∧ (∀ time force instant stored,
        storedIn (now.perform (.flush time force instant)).2 = some stored →
          (now.perform (.flush time force instant)).1.revision = now.revision + 1
            ∧ (now.perform (.flush time force instant)).1.overrides = stored)
      ∧ ∀ time instant (steps : List OverrideStep),
        steps.map OverrideStep.edit = log.flushed ++ log.waiting →
          ((now.perform (.flush time true instant)).1.perform .document).2
            = (compile now.content (.ok now.tokens) (steps.foldl OverrideSet.made overrides)
              s.options).map .compiled := by
  intro now log
  have same : s.overrides.Agrees overrides := agrees_of_start opened
  have h : now.IsLogged s.overrides log := (IsLogged.of_start opened).run calls
  obtain ⟨versions, -, known⟩ := (HasVersions.of_start opened).run calls
  refine ⟨h.exists_steps, fun steps made => h.agrees same made, ?_, h.stored,
    fun time force instant stored => overrides_of_flush, fun time instant steps made => ?_⟩
  · simp [hasPending, h.waiting]
  · rw [h.document_of_force same known time instant made, s.options_run calls]

end EditSession

/-- The edits of an author who shows the headline and then takes its override away. -/
def headlineEdits : List (SessionCall Nat) :=
  [.stageOverride ⟨.string "header-headline", .headerField, false, none, none⟩ (.ok 0),
    .stageRemoval (.text "header-headline") (.ok 100), .flush (.ok 400) false .epoch]

theorem staging_loses_nothing_engineer :
    ∃ s, engineerSession = .ok s
      ∧ (s.run headlineEdits).overrides.get? (.text "header-headline") = none := by
  obtain ⟨s, opened⟩ := Checked.exists_of_isOk isOk_engineerSession
  obtain ⟨-, each, -⟩ := EditSession.staging_loses_nothing opened headlineEdits
  obtain ⟨channel, tokens, rendered, -, -, fresh⟩ := EditSession.eq_of_start opened
  have flushed : (s.logAfter {} headlineEdits).flushed
      = [.put ⟨.string "header-headline", .headerField, false, none, none⟩,
        .removal (.text "header-headline")] := by
    rw [fresh]
    rfl
  have agree := each
    [.put ⟨.string "header-headline", .headerField, false, none, none⟩ .epoch,
      .remove (.text "header-headline") .epoch] flushed.symm
  exact ⟨s, opened, (agree _).trans (by decide)⟩

end Vitae
