import Vitae.Preview.Call
import Vitae.Proofs.Document.Compilation
import Vitae.Proofs.Override.History
import Vitae.Proofs.Preview.Delivery

/-!
What one call does to a session. A call that fails leaves the session as it was, but for the edit
mode of a session whose channel is closed and for an edit that is staged without a time. A call that
succeeds either leaves what documents are compiled from as it was, or is a commit.
-/

namespace Vitae

open Time (Instant)

namespace EditChannel

variable {c c' : EditChannel}

theorem id_receive {raw : Json} {found : Option Message} (h : c.receive raw = .ok (c', found)) :
    c'.id = c.id := by
  simpa only [perform, h, replying] using c.id_perform (.receive raw)

theorem id_drain {messages : List Message} (h : c.drain = .ok (c', messages)) : c'.id = c.id := by
  simpa only [perform, h, replying] using c.id_perform .drain

theorem id_setEditMode {enabled : Bool} {m : Message} (h : c.setEditMode enabled = .ok (c', m)) :
    c'.id = c.id := by
  simpa only [perform, h, replying] using c.id_perform (.setEditMode enabled)

theorem setEditMode_of_open (h : c.closed = false) (enabled : Bool) :
    ∃ c' m, c.setEditMode enabled = .ok (c', m) := by
  rw [setEditMode, Checked.bind_of_ok (ensureOpen_of_open h)]
  exact ⟨_, _, rfl⟩

theorem setEditMode_of_closed (h : c.closed) (enabled : Bool) :
    c.setEditMode enabled = .error (.channelClosed c.id.plainText) := by
  rw [setEditMode, Checked.bind_of_error (ensureOpen_of_closed h)]

end EditChannel

/-- A staged edit, as a step that is made at a time. -/
def StagedEdit.at (edit : StagedEdit) (time : Instant) : OverrideStep :=
  match edit.override with
  | some o => .put o time
  | none => .remove edit.id time

namespace EditSession

variable {τ : Type}

/-- A session that was opened has nothing staged, selected or kept, and no revision yet. -/
theorem eq_of_start {settings : Settings} {debounce : τ} {given : Option EditChannel}
    {content : Content} {style : Checked StyleTokens} {overrides : OverrideSet}
    {mode : Checked RenderMode} {s : EditSession τ}
    (opened : start settings debounce given content style overrides mode = .ok s) :
    ∃ channel tokens rendered, style = .ok tokens ∧ mode = .ok rendered ∧ s = {
      settings, debounce, channel, content, tokens, mode := rendered
      overrides := if overrides.isEmpty then .empty else overrides } := by
  obtain ⟨channel, -, opened⟩ := Checked.bind_eq_ok.mp opened
  obtain ⟨tokens, resolved, opened⟩ := Checked.bind_eq_ok.mp opened
  obtain ⟨rendered, known, opened⟩ := Checked.bind_eq_ok.mp opened
  exact ⟨channel, tokens, rendered, resolved, known, (Except.ok.inj opened).symm⟩

/-! The calls one by one -/

theorem receive_cases (s : EditSession τ) (raw : Json) :
    (∃ fault, s.receive raw = (s, .error fault))
      ∨ ∃ channel found, s.channel.receive raw = .ok (channel, found)
        ∧ s.receive raw = ({ s with channel }, .ok found) := by
  unfold receive
  cases h : s.channel.receive raw with
  | error fault => exact .inl ⟨fault, rfl⟩
  | ok r => exact .inr ⟨r.1, r.2, rfl, rfl⟩

theorem processMessages_cases (s : EditSession τ) :
    (∃ fault, s.processMessages = (s, .error fault))
      ∨ ∃ channel messages, s.channel.drain = .ok (channel, messages)
        ∧ s.processMessages = ({ s with
          channel, selection := messages.foldl selectionAfter s.selection }, .ok messages) := by
  unfold processMessages
  cases h : s.channel.drain with
  | error fault => exact .inl ⟨fault, rfl⟩
  | ok r => exact .inr ⟨r.1, r.2, rfl, rfl⟩

/-- Edit mode and selection change whether or not the document can be told. -/
theorem setEditMode_cases (s : EditSession τ) (enabled : Bool) :
    (∃ fault, s.channel.setEditMode enabled = .error fault
      ∧ s.setEditMode enabled = ({ s with
        editMode := enabled, selection := if enabled then s.selection else none }, .error fault))
      ∨ ∃ channel m, s.channel.setEditMode enabled = .ok (channel, m)
        ∧ s.setEditMode enabled = ({ s with
          editMode := enabled, selection := if enabled then s.selection else none, channel },
          .ok ()) := by
  unfold setEditMode
  cases h : s.channel.setEditMode enabled with
  | error fault => exact .inl ⟨fault, rfl, by simp only [h]; rfl⟩
  | ok r => exact .inr ⟨r.1, r.2, rfl, by simp only [h]; rfl⟩

/-- Without a time an edit is staged nevertheless. -/
theorem stage_cases [Add τ] (s : EditSession τ) (edit : StagedEdit) (now : Checked τ) :
    (∃ fault, now = .error fault ∧ s.stage edit now
        = ({ s with pending := Keyed.upsert StagedEdit.id edit s.pending }, .error fault))
      ∨ ∃ time, now = .ok time ∧ s.stage edit now = ({ s with
          pending := Keyed.upsert StagedEdit.id edit s.pending
          due := some (time + s.debounce) }, .ok ()) := by
  cases now with
  | error fault => exact .inl ⟨fault, rfl, rfl⟩
  | ok time => exact .inr ⟨time, rfl, rfl⟩

/-- A flush fails, waits or commits all that is staged. -/
theorem flush_cases [LT τ] [DecidableLT τ] (s : EditSession τ) (now : Checked τ) (force : Bool)
    (time : Instant) :
    (∃ fault, s.flush now force time = (s, .error fault))
      ∨ s.flush now force time = (s, .ok none)
      ∨ s.hasPending
        ∧ s.flush now force time = (s.commitAll time, .ok (some (s.committed time))) := by
  unfold flush
  cases s.hasPending with
  | false => exact .inr (.inl rfl)
  | true =>
    cases force with
    | true => exact .inr (.inr ⟨rfl, rfl⟩)
    | false =>
      cases s.isEarly now with
      | error fault => exact .inl ⟨fault, rfl⟩
      | ok waits =>
        cases waits with
        | true => exact .inr (.inl rfl)
        | false => exact .inr (.inr ⟨rfl, rfl⟩)

theorem flush_of_force [LT τ] [DecidableLT τ] (s : EditSession τ) (now : Checked τ)
    (time : Instant) : s.flush now true time
      = if s.hasPending then (s.commitAll time, .ok (some (s.committed time)))
        else (s, .ok none) := by
  unfold flush
  cases s.hasPending <;> rfl

theorem updateStyle_cases (s : EditSession τ) (style : Checked StyleTokens) :
    (∃ fault, style = .error fault ∧ s.updateStyle style = (s, .error fault))
      ∨ ∃ tokens, style = .ok tokens
        ∧ s.updateStyle style = ({ s with tokens, revision := s.revision + 1 }, .ok ()) := by
  cases style with
  | error fault => exact .inl ⟨fault, rfl, rfl⟩
  | ok tokens => exact .inr ⟨tokens, rfl, rfl⟩

/-- The document is the one that is kept for the revision, or else it is compiled and then kept. -/
theorem document_cases (s : EditSession τ) :
    (∃ fault, s.document = (s, .error fault) ∧ s.compileSnapshot s.snapshot = .error fault)
      ∨ (∃ result, s.cached? = some result ∧ s.document = (s, .ok result.html))
      ∨ ∃ result, s.compileSnapshot s.snapshot = .ok result
        ∧ s.document = (s.keep result, .ok result.html) := by
  unfold document
  cases s.cached? with
  | some result => exact .inr (.inl ⟨result, rfl, rfl⟩)
  | none =>
    cases h : s.compileSnapshot s.snapshot with
    | error fault => exact .inl ⟨fault, rfl, rfl⟩
    | ok result => exact .inr (.inr ⟨result, rfl, rfl⟩)

/-! What a commit does -/

/-- The pending edits are made one after another, all at one time. -/
theorem committed_eq (s : EditSession τ) (time : Instant) : s.committed time
    = (s.pending.map fun edit => edit.at time).foldl OverrideSet.made s.overrides := by
  have same (set : OverrideSet) (edit : StagedEdit) :
      set.commit edit time = set.made (edit.at time) := by
    obtain ⟨id, override⟩ := edit
    cases override <;> rfl
  rw [committed, List.foldl_map]
  simp only [same]

/-! What documents are compiled from -/

/-- A session that compiles the same documents as before, and keeps the same one. -/
structure CompilesAs (s s' : EditSession τ) : Prop where
  snapshot : s'.snapshot = s.snapshot
  options : s'.options = s.options
  cache : s'.cache = s.cache

/-- Neither edits that wait, nor edit mode and selection, nor what a channel holds make a difference
to documents. -/
theorem compilesAs_with (s : EditSession τ) {channel : EditChannel}
    (id : channel.id = s.channel.id) (editMode : Bool) (selection : Option Selection)
    (pending : List StagedEdit) (due : Option τ) :
    s.CompilesAs { s with channel, editMode, selection, pending, due } :=
  ⟨rfl, by simp [options, id], rfl⟩

/-- What a call can do, by whether it is a commit, the edit it stages and the set it hands over to
be stored. -/
inductive Effect (s : EditSession τ) :
    Bool → Option StagedEdit → Option OverrideSet → EditSession τ → Prop where
  | rests (s' : EditSession τ) (same : s.CompilesAs s') (pending : s'.pending = s.pending) :
      Effect s false none none s'
  | stages (edit : StagedEdit) (s' : EditSession τ) (same : s.CompilesAs s')
      (pending : s'.pending = Keyed.upsert StagedEdit.id edit s.pending) :
      Effect s false (some edit) none s'
  | keeps (result : Compiled) (compiled : s.compileSnapshot s.snapshot = .ok result) :
      Effect s false none none (s.keep result)
  | flushes (time : Instant) :
      Effect s true none (some (s.committed time)) (s.commitAll time)
  | updates (content : Content) (tokens : StyleTokens) :
      Effect s true none none { s with content, tokens, revision := s.revision + 1 }

theorem effect_refl (s : EditSession τ) : Effect s false none none s := .rests s ⟨rfl, rfl, rfl⟩ rfl

variable [Add τ]

theorem effect_stage? (s : EditSession τ) (edit : Option StagedEdit) (now : Checked τ) :
    Effect s false edit (storedIn (replying (fun _ => .done) (s.stage? edit now)).2)
      (s.stage? edit now).1 := by
  cases edit with
  | none => exact s.effect_refl
  | some edit =>
    rw [stage?]
    rcases s.stage_cases edit now with ⟨fault, -, same⟩ | ⟨time, -, same⟩
    · rw [same]
      exact .stages edit _ (s.compilesAs_with rfl _ _ _ _) rfl
    · rw [same]
      exact .stages edit _ (s.compilesAs_with rfl _ _ _ _) rfl

variable [LT τ] [DecidableLT τ]

theorem effect_perform (s : EditSession τ) (call : SessionCall τ) :
    Effect s (call.commits (s.perform call).2) call.edit? (storedIn (s.perform call).2)
      (s.perform call).1 := by
  cases call with
  | setEditMode enabled =>
    rw [perform, replying]
    rcases s.setEditMode_cases enabled with ⟨fault, -, same⟩ | ⟨channel, m, told, same⟩
    · rw [same]
      exact .rests _ (s.compilesAs_with rfl _ _ _ _) rfl
    · rw [same]
      exact .rests _ (s.compilesAs_with (EditChannel.id_setEditMode told) _ _ _ _) rfl
  | receive raw =>
    rw [perform, replying]
    rcases s.receive_cases raw with ⟨fault, same⟩ | ⟨channel, found, taken, same⟩
    · rw [same]
      exact s.effect_refl
    · rw [same]
      exact .rests _ (s.compilesAs_with (EditChannel.id_receive taken) _ _ _ _) rfl
  | processMessages =>
    rw [perform, replying]
    rcases s.processMessages_cases with ⟨fault, same⟩ | ⟨channel, messages, drained, same⟩
    · rw [same]
      exact s.effect_refl
    · rw [same]
      exact .rests _ (s.compilesAs_with (EditChannel.id_drain drained) _ _ _ _) rfl
  | takeOutbox =>
    have id : s.channel.takeOutbox.1.id = s.channel.id := rfl
    exact .rests _ (s.compilesAs_with id _ _ _ _) rfl
  | stageOverride o now => exact s.effect_stage? _ now
  | stageRemoval id now => exact s.effect_stage? _ now
  | flush now force time =>
    rw [perform, replying]
    rcases s.flush_cases now force time with ⟨fault, same⟩ | same | ⟨-, same⟩
    · rw [same]
      exact s.effect_refl
    · rw [same]
      exact s.effect_refl
    · rw [same]
      exact .flushes time
  | updateContent content => exact .updates content s.tokens
  | updateStyle style =>
    rw [perform, replying]
    rcases s.updateStyle_cases style with ⟨fault, -, same⟩ | ⟨tokens, -, same⟩
    · rw [same]
      exact s.effect_refl
    · rw [same]
      exact .updates s.content tokens
  | document =>
    rw [perform, replying]
    rcases s.document_cases with ⟨fault, same, -⟩ | ⟨result, -, same⟩ | ⟨result, compiled, same⟩
    · rw [same]
      exact s.effect_refl
    · rw [same]
      exact s.effect_refl
    · rw [same]
      exact .keeps result compiled
  | close =>
    have id : s.channel.close.id = s.channel.id := rfl
    exact .rests _ (s.compilesAs_with id _ _ _ _) rfl

end EditSession

/-- A session in the style that nothing is asked of, over times in whole numbers. -/
def engineerSession : Checked (EditSession Nat) :=
  EditSession.start {} 300 none engineerContent (StyleTokens.ofJson (.object [])) headlineHidden
    (.ok .interactive)

theorem isOk_engineerSession : engineerSession.isOk := by decide +kernel

end Vitae
