import Vitae.Proofs.Override.Storage
import Vitae.Proofs.Preview.Staging

/-!
Sessions that go on where others stopped. The overrides that were last handed over to be stored are
those of the session, and a session that is opened with them, or with what was read of them from a
store, has the same entries in the same order. The time of the last change comes back with them as
long as an entry is left: opening takes a set without entries for no set at all.
-/

namespace Vitae

open Time (Instant)

/-- An override that is staged can be held by a set if it has an id. -/
theorem SessionCall.isKeyed_of_edit? {τ : Type} {call : SessionCall τ} {edit : StagedEdit}
    (staged : call.edit? = some edit)
    (named : ∀ o now, call = .stageOverride o now → o.written.truthy = true) :
    ∀ o ∈ edit.override, o.IsKeyed := by
  intro o put
  cases call with
  | stageOverride given now =>
    rw [edit?] at staged
    split at staged
    · next known =>
      cases staged
      cases put
      exact ⟨named o now rfl, known⟩
    · cases staged
  | stageRemoval id now =>
    rw [edit?] at staged
    split at staged
    · cases staged
      cases put
    · cases staged
  | _ => cases staged

namespace EditSession

variable {τ : Type} {s s' : EditSession τ}

/-! Opening -/

section Opening

variable {settings : Settings} {debounce : τ} {given : Option EditChannel} {content : Content}
  {style : Checked StyleTokens} {overrides : OverrideSet} {mode : Checked RenderMode}

theorem overrides_of_start
    (opened : start settings debounce given content style overrides mode = .ok s) :
    s.overrides = if overrides.isEmpty then .empty else overrides := by
  obtain ⟨channel, tokens, rendered, -, -, fresh⟩ := eq_of_start opened
  rw [fresh]

theorem entries_of_start
    (opened : start settings debounce given content style overrides mode = .ok s) :
    s.overrides.entries = overrides.entries := by
  rw [overrides_of_start opened]
  split
  · next nothing => exact (List.isEmpty_iff.mp nothing).symm
  · rfl

/-- A set without entries is taken over with the epoch for its time. -/
theorem overrides_of_start_eq_iff
    (opened : start settings debounce given content style overrides mode = .ok s) :
    s.overrides = overrides ↔ overrides.isEmpty = false ∨ overrides.lastModified = .epoch := by
  rw [overrides_of_start opened]
  split
  · next nothing =>
    have none : overrides.entries = [] := List.isEmpty_iff.mp nothing
    constructor
    · rintro rfl
      exact .inr rfl
    · rintro (some | time)
      · rw [some] at nothing
        cases nothing
      · obtain ⟨entries, lastModified, distinct⟩ := overrides
        obtain rfl : entries = [] := none
        obtain rfl : lastModified = .epoch := time
        rfl
  · next some => exact ⟨fun _ => .inl (by simpa using some), fun _ => rfl⟩

/-- Whether a session opens does not depend on its overrides. -/
theorem exists_start (opened : start settings debounce given content style overrides mode = .ok s)
    (set : OverrideSet) : ∃ s', start settings debounce given content style set mode = .ok s' := by
  obtain ⟨channel, named, opened⟩ := Checked.bind_eq_ok.mp opened
  obtain ⟨tokens, resolved, opened⟩ := Checked.bind_eq_ok.mp opened
  obtain ⟨rendered, known, -⟩ := Checked.bind_eq_ok.mp opened
  unfold start
  rw [Checked.bind_of_ok named, Checked.bind_of_ok resolved, Checked.bind_of_ok known]
  exact ⟨_, rfl⟩

end Opening

/-! What a run holds -/

/-- A session whose overrides, the staged ones included, can be held by a set. -/
structure HoldsKeyed (s : EditSession τ) : Prop where
  overrides : s.overrides.IsKeyed
  pending : ∀ edit ∈ s.pending, ∀ o ∈ edit.override, o.IsKeyed

namespace HoldsKeyed

theorem committed (h : s.HoldsKeyed) (time : Instant) : (s.committed time).IsKeyed := by
  rw [s.committed_eq]
  apply h.overrides.foldl_made
  intro a mem o put
  obtain ⟨⟨id, override⟩, waits, rfl⟩ := List.mem_map.mp mem
  cases override with
  | none => cases put
  | some given => exact h.pending _ waits o put

theorem of_effect (h : s.HoldsKeyed) {committed : Bool} {edit? : Option StagedEdit}
    {stored : Option OverrideSet} (effect : Effect s committed edit? stored s')
    (keyed : ∀ edit ∈ edit?, ∀ o ∈ edit.override, o.IsKeyed) : s'.HoldsKeyed := by
  cases effect with
  | rests _ same pending =>
    have overrides : s'.overrides = s.overrides := congrArg Snapshot.overrides same.snapshot
    exact ⟨overrides ▸ h.overrides, pending ▸ h.pending⟩
  | stages edit _ same pending =>
    have overrides : s'.overrides = s.overrides := congrArg Snapshot.overrides same.snapshot
    refine ⟨overrides ▸ h.overrides, ?_⟩
    rw [pending]
    intro other mem
    rcases Keyed.eq_or_mem_of_mem_upsert mem with rfl | mem
    · exact keyed other rfl
    · exact h.pending other mem
  | keeps result compiled => exact ⟨h.overrides, h.pending⟩
  | flushes time => exact ⟨h.committed time, by simp [commitAll]⟩
  | updates content tokens => exact ⟨h.overrides, h.pending⟩

variable [Add τ] [LT τ] [DecidableLT τ]

theorem run (h : s.HoldsKeyed) {calls : List (SessionCall τ)}
    (named : ∀ o now, SessionCall.stageOverride o now ∈ calls → o.written.truthy = true) :
    (s.run calls).HoldsKeyed := by
  induction calls generalizing s with
  | nil => exact h
  | cons call calls ih =>
    have keyed : ∀ edit ∈ call.edit?, ∀ o ∈ edit.override, o.IsKeyed := by
      intro edit staged
      apply SessionCall.isKeyed_of_edit? staged
      rintro o now rfl
      exact named o now List.mem_cons_self
    exact ih (h.of_effect (s.effect_perform call) keyed) fun o now mem =>
      named o now (List.mem_cons_of_mem _ mem)

end HoldsKeyed

/-! Going on -/

/-- What opening a session makes of a set of overrides: it keeps the entries in their order, and the
time of the last change unless there is no entry. -/
structure Restores (overrides set : OverrideSet) : Prop where
  entries : overrides.entries = set.entries
  whole : overrides = set ↔ set.isEmpty = false ∨ set.lastModified = .epoch

theorem restores_of_start {settings : Settings} {debounce : τ} {given : Option EditChannel}
    {content : Content} {style : Checked StyleTokens} {overrides : OverrideSet}
    {mode : Checked RenderMode}
    (opened : start settings debounce given content style overrides mode = .ok s) :
    Restores s.overrides overrides :=
  ⟨entries_of_start opened, overrides_of_start_eq_iff opened⟩

variable [Add τ] [LT τ] [DecidableLT τ]

/-- A session goes on where another stopped. Reading what is stored of a set gives the set, if the
offset of its time is zero or at least a second, and a session that is opened with it has its
entries in their order. So at every moment of a run the set that was last handed over to be stored
is that of the session, it opens a session again, and whatever session is opened with it, or with
what is read of it, has its entries. The time of the last change comes back with them exactly if
there is an entry or the time is the epoch. -/
theorem restored_session_goes_on {settings : Settings} {debounce : τ} {given : Option EditChannel}
    {content : Content} {style : Checked StyleTokens} {overrides : OverrideSet}
    {mode : Checked RenderMode} (keyed : overrides.IsKeyed)
    (opened : start settings debounce given content style overrides mode = .ok s)
    (calls : List (SessionCall τ))
    (named : ∀ o now, SessionCall.stageOverride o now ∈ calls → o.written.truthy = true) :
    (overrides.lastModified.IsLasting → OverrideSet.ofJson overrides.toJson = .ok overrides)
      ∧ Restores s.overrides overrides
      ∧ ∀ stored, (s.logAfter {} calls).stored.getLast? = some stored →
        (s.run calls).overrides = stored
          ∧ (stored.lastModified.IsLasting → OverrideSet.ofJson stored.toJson = .ok stored)
          ∧ (∃ s', start settings debounce given content style stored mode = .ok s')
          ∧ ∀ (settings' : Settings) (debounce' : τ) given' content' style' mode' s',
            start settings' debounce' given' content' style' stored mode' = .ok s' →
              Restores s'.overrides (s.run calls).overrides := by
  have first : s.HoldsKeyed := by
    obtain ⟨channel, tokens, rendered, -, -, fresh⟩ := eq_of_start opened
    rw [fresh]
    refine ⟨?_, by simp⟩
    dsimp only
    split
    · exact OverrideSet.isKeyed_empty
    · exact keyed
  refine ⟨keyed.ofJson_toJson_eq_self_iff.mpr, restores_of_start opened, fun stored last => ?_⟩
  have holds : (s.run calls).overrides = stored := by
    have logged : (s.run calls).IsLogged s.overrides (s.logAfter {} calls) :=
      (IsLogged.of_start opened).run calls
    rw [logged.stored, List.getLastD_eq_getLast?, last]
    rfl
  have kept : stored.IsKeyed := holds ▸ (first.run named).overrides
  refine ⟨holds, kept.ofJson_toJson_eq_self_iff.mpr, exists_start opened stored, ?_⟩
  intro settings' debounce' given' content' style' mode' s' reopened
  rw [holds]
  exact restores_of_start reopened

end EditSession

/-- The summary is hidden, and what was hidden before is shown again. -/
def summaryCalls : List (SessionCall Nat) :=
  [.stageOverride ⟨.string "summary", .summary, true, none, none⟩ (.ok 0),
    .stageRemoval (.text "header-headline") (.ok 100), .flush (.ok 400) false halfPastTwelve]

theorem restored_session_goes_on_summary :
    ∃ s stored, engineerSession = .ok s
      ∧ (s.logAfter {} summaryCalls).stored.getLast? = some stored ∧ stored.isEmpty = false
      ∧ ∀ s' : EditSession Nat, EditSession.start {} 300 none engineerContent
        (StyleTokens.ofJson (.object [])) stored (.ok .interactive) = .ok s' →
          s'.overrides = (s.run summaryCalls).overrides := by
  obtain ⟨s, opened⟩ := Checked.exists_of_isOk isOk_engineerSession
  obtain ⟨channel, tokens, rendered, -, -, fresh⟩ := EditSession.eq_of_start opened
  have keyed : headlineHidden.IsKeyed := OverrideSet.isKeyed_ofList (by simp; exact ⟨rfl, rfl⟩) _
  have named : ∀ o now, SessionCall.stageOverride o now ∈ summaryCalls
      → o.written.truthy = true := by
    intro o now mem
    rcases List.mem_cons.mp mem with same | mem
    · cases same
      rfl
    · simp at mem
  have kept : ∃ stored, (s.logAfter {} summaryCalls).stored.getLast? = some stored
      ∧ stored.isEmpty = false := by
    rw [fresh]
    exact ⟨_, rfl, rfl⟩
  obtain ⟨stored, last, left⟩ := kept
  obtain ⟨-, -, goesOn⟩ := EditSession.restored_session_goes_on keyed opened summaryCalls named
  obtain ⟨holds, -, -, reopens⟩ := goesOn stored last
  refine ⟨s, stored, opened, last, left, fun s' reopened => ?_⟩
  exact (reopens _ _ _ _ _ _ s' reopened).whole.mpr (.inl (holds ▸ left))

/-- The only override is taken away. -/
def emptyingCalls : List (SessionCall Nat) :=
  [.stageRemoval (.text "header-headline") (.ok 0), .flush (.ok 300) false halfPastTwelve]

/-- A set without entries does not come back: neither does the session that is opened with it have
its time, nor is it as the session that stored it. -/
theorem time_of_emptied_set_is_lost :
    ∃ s stored s', engineerSession = .ok s
      ∧ (s.logAfter {} emptyingCalls).stored.getLast? = some stored
      ∧ EditSession.start {} 300 none engineerContent (StyleTokens.ofJson (.object [])) stored
        (.ok .interactive) = .ok s'
      ∧ stored.lastModified = halfPastTwelve ∧ s'.overrides.lastModified = .epoch
      ∧ s'.overrides ≠ stored ∧ s'.overrides ≠ (s.run emptyingCalls).overrides := by
  obtain ⟨s, opened⟩ := Checked.exists_of_isOk isOk_engineerSession
  obtain ⟨channel, tokens, rendered, -, -, fresh⟩ := EditSession.eq_of_start opened
  let stored : OverrideSet := ⟨[], halfPastTwelve, .nil⟩
  obtain ⟨s', reopened⟩ := EditSession.exists_start opened stored
  have last : (s.logAfter {} emptyingCalls).stored.getLast? = some stored := by
    rw [fresh]
    rfl
  have now : (s.run emptyingCalls).overrides = stored := by
    rw [fresh]
    rfl
  have epoch : s'.overrides.lastModified = .epoch := by
    rw [EditSession.overrides_of_start reopened]
    rfl
  have differs : s'.overrides ≠ stored := by
    intro same
    rw [same] at epoch
    exact absurd epoch (by decide)
  exact ⟨s, stored, s', opened, last, reopened, rfl, epoch, differs, now ▸ differs⟩

end Vitae
