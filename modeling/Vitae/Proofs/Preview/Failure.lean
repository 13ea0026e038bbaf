import Vitae.Proofs.Preview.Call

/-!
Calls that fail. What can refuse a call is asked before anything changes, with one exception: edit
mode and selection have changed by the time a closed channel refuses to tell the document of it.
-/

namespace Vitae

namespace EditSession

variable {τ : Type}

/-- A reply fails exactly where what it is made of does. -/
theorem eq_error_of_replying {α : Type} {f : α → SessionReply} {r : EditSession τ × Checked α}
    {fault : Fault} (h : (replying f r).2 = .error fault) : r.2 = .error fault := by
  obtain ⟨s, result⟩ := r
  cases result with
  | error fault' =>
    obtain rfl : fault' = fault := Except.error.inj h
    rfl
  | ok a => cases h

/-- A call that leaves the session as it was if it fails. -/
def IsGuarded {α : Type} (s : EditSession τ) (r : EditSession τ × Checked α) : Prop :=
  ∀ fault, r.2 = .error fault → r.1 = s

theorem IsGuarded.replying {α : Type} {s : EditSession τ} {r : EditSession τ × Checked α}
    (h : s.IsGuarded r) (f : α → SessionReply) : s.IsGuarded (replying f r) :=
  fun fault failed => h fault (eq_error_of_replying failed)

theorem isGuarded_orUnchanged {α : Type} (s : EditSession τ)
    (result : Checked (EditSession τ × α)) : s.IsGuarded (s.orUnchanged result) := by
  intro fault failed
  cases result with
  | error fault' => rfl
  | ok r => cases failed

theorem isGuarded_flush [LT τ] [DecidableLT τ] (s : EditSession τ) (now : Checked τ)
    (force : Bool) (time : Time.Instant) : s.IsGuarded (s.flush now force time) := by
  unfold flush
  split
  · intro fault failed
    cases failed
  · exact s.isGuarded_orUnchanged _

theorem isGuarded_document (s : EditSession τ) : s.IsGuarded s.document := by
  unfold document
  split
  · intro fault failed
    cases failed
  · exact s.isGuarded_orUnchanged _

theorem isGuarded_stage?_none [Add τ] (s : EditSession τ) (now : Checked τ) :
    s.IsGuarded (s.stage? none now) := fun _ _ => rfl

/-- The edit mode of a session whose channel is closed changes although the call fails. -/
theorem setEditMode_of_fault {s : EditSession τ} {enabled : Bool} {fault : Fault}
    (failed : (s.setEditMode enabled).2 = .error fault) :
    s.channel.closed ∧ fault = .channelClosed s.channel.id.plainText
      ∧ (s.setEditMode enabled).1 = { s with
        editMode := enabled, selection := if enabled then s.selection else none } := by
  rcases s.setEditMode_cases enabled with ⟨fault', told, same⟩ | ⟨channel, m, -, same⟩
  · rw [same] at failed ⊢
    obtain rfl : fault' = fault := Except.error.inj failed
    cases closed : s.channel.closed with
    | false =>
      obtain ⟨channel, m, heard⟩ := EditChannel.setEditMode_of_open closed enabled
      rw [heard] at told
      cases told
    | true =>
      rw [EditChannel.setEditMode_of_closed closed] at told
      exact ⟨rfl, (Except.error.inj told).symm, rfl⟩
  · rw [same] at failed
    cases failed

variable [Add τ] [LT τ] [DecidableLT τ]

/-- A call that fails changes nothing: not the content, the style, the overrides or the revision, no
staged edit and no due time, neither the document that is kept nor a message on its way. The only
exceptions are an edit that is staged without a time, and edit mode and selection where the channel
is closed. -/
theorem perform_of_fault {s : EditSession τ} {call : SessionCall τ} {fault : Fault}
    (failed : (s.perform call).2 = .error fault) :
    (call.edit? = none → (∀ enabled, call ≠ .setEditMode enabled) → (s.perform call).1 = s)
      ∧ ∀ enabled, call = .setEditMode enabled →
        s.channel.closed ∧ fault = .channelClosed s.channel.id.plainText
          ∧ (s.perform call).1 = { s with
            editMode := enabled, selection := if enabled then s.selection else none } := by
  constructor
  · intro unstaged otherwise
    cases call with
    | setEditMode enabled => exact absurd rfl (otherwise enabled)
    | receive raw => exact ((s.isGuarded_orUnchanged _).replying _) fault failed
    | processMessages => exact ((s.isGuarded_orUnchanged _).replying _) fault failed
    | takeOutbox => cases failed
    | stageOverride o now =>
      rw [perform, unstaged] at failed ⊢
      exact ((s.isGuarded_stage?_none now).replying _) fault failed
    | stageRemoval id now =>
      rw [perform, unstaged] at failed ⊢
      exact ((s.isGuarded_stage?_none now).replying _) fault failed
    | flush now force time => exact ((s.isGuarded_flush now force time).replying _) fault failed
    | updateContent content => cases failed
    | updateStyle style => exact ((s.isGuarded_orUnchanged _).replying _) fault failed
    | document => exact (s.isGuarded_document.replying _) fault failed
    | close => cases failed
  · rintro enabled rfl
    exact setEditMode_of_fault (eq_error_of_replying failed)

end EditSession

theorem perform_of_fault_null :
    ∃ s, engineerSession = .ok s
      ∧ (s.perform (.updateStyle (StyleTokens.ofJson .null))).2
        = .error (.configuration (.styleExpected .null))
      ∧ (s.perform (.updateStyle (StyleTokens.ofJson .null))).1 = s := by
  obtain ⟨s, opened⟩ := Checked.exists_of_isOk isOk_engineerSession
  have failed : (s.perform (.updateStyle (StyleTokens.ofJson .null))).2
      = .error (.configuration (.styleExpected .null)) := rfl
  exact ⟨s, opened, failed, (EditSession.perform_of_fault failed).1 rfl (by simp)⟩

/-- Edit mode is on although the call to turn it on fails. -/
theorem editMode_of_closed_session :
    ∃ s, engineerSession = .ok s ∧ s.close.editMode = false
      ∧ ∃ id, (s.close.perform (.setEditMode true)).2 = .error (.channelClosed id)
        ∧ (s.close.perform (.setEditMode true)).1.editMode = true := by
  obtain ⟨s, opened⟩ := Checked.exists_of_isOk isOk_engineerSession
  obtain ⟨channel, tokens, rendered, -, -, fresh⟩ := EditSession.eq_of_start opened
  have off : s.close.editMode = false := by
    rw [fresh]
    rfl
  exact ⟨s, opened, off, s.channel.id.plainText, rfl, rfl⟩

end Vitae
