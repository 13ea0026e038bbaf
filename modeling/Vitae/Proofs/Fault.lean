import Vitae.Fault

/-!
What a checked step tells when it succeeds, and the faults it can end in.
-/

namespace Vitae.Checked

variable {α β γ : Type}

/-- A sequence of steps succeeds if its first step does and the rest does with its result. -/
theorem bind_eq_ok {first : Checked α} {next : α → Checked β} {b : β} :
    (first >>= next) = .ok b ↔ ∃ a, first = .ok a ∧ next a = .ok b := by
  cases first with
  | error fault => simp [bind, Except.bind]
  | ok a => simp [bind, Except.bind]

/-- A step that succeeds goes on with its result. -/
theorem bind_of_ok {first : Checked α} {a : α} (h : first = .ok a) (next : α → Checked β) :
    (first >>= next) = next a := by
  rw [h]
  rfl

/-- The first fault is the fault of the whole. -/
theorem bind_of_error {first : Checked α} {fault : Fault} (h : first = .error fault)
    (next : α → Checked β) : (first >>= next) = .error fault := by
  rw [h]
  rfl

theorem map_eq_ok {first : Checked α} {f : α → β} {b : β} :
    first.map f = .ok b ↔ ∃ a, first = .ok a ∧ f a = b := by
  cases first with
  | error fault => simp [Except.map]
  | ok a => simp [Except.map]

theorem ok_bind (a : α) (next : α → Checked β) : ((.ok a : Checked α) >>= next) = next a := rfl

theorem map_pure (a : α) (f : α → β) : (pure a : Checked α).map f = pure (f a) := rfl

theorem map_bind (first : Checked α) (next : α → Checked β) (f : β → γ) :
    (first >>= next).map f = first >>= fun a => (next a).map f := by
  cases first <;> rfl

theorem exists_of_isOk {step : Checked α} (h : step.isOk) : ∃ a, step = .ok a := by
  cases step with
  | error fault => simp [Except.isOk, Except.toBool] at h
  | ok a => exact ⟨a, rfl⟩

theorem eq_ok_of_toOption {step : Checked α} {a : α} (h : step.toOption = some a) :
    step = .ok a := by
  cases step with
  | error fault => cases h
  | ok b => exact congrArg Except.ok (Option.some.inj h)

/-- Every result of a step for each item comes from one of the items. -/
theorem exists_of_mem_mapM {f : α → Checked β} {items : List α} {results : List β}
    (h : items.mapM f = .ok results) {b : β} (mem : b ∈ results) : ∃ a ∈ items, f a = .ok b := by
  induction items generalizing results with
  | nil =>
    obtain rfl : results = [] := by simpa [pure, Except.pure] using h.symm
    simp at mem
  | cons a items ih =>
    rw [List.mapM_cons] at h
    obtain ⟨first, ha, h⟩ := bind_eq_ok.mp h
    obtain ⟨rest, hr, h⟩ := bind_eq_ok.mp h
    obtain rfl : results = first :: rest := by simpa [pure, Except.pure] using h.symm
    rcases List.mem_cons.mp mem with rfl | mem
    · exact ⟨a, by simp, ha⟩
    · obtain ⟨a', inside, ha'⟩ := ih hr mem
      exact ⟨a', List.mem_cons_of_mem _ inside, ha'⟩

/-! Faults -/

/-- A step that can only fail in ways that are allowed. -/
def FailsBy (allowed : Fault → Prop) (step : Checked α) : Prop :=
  ∀ fault, step = .error fault → allowed fault

variable {allowed : Fault → Prop}

theorem failsBy_ok (a : α) : FailsBy allowed (.ok a) := fun _ failed => nomatch failed

theorem failsBy_error {fault : Fault} (h : allowed fault) :
    FailsBy allowed (.error fault : Checked α) := by
  intro other failed
  obtain rfl := Except.error.inj failed
  exact h

theorem FailsBy.mono {more : Fault → Prop} {step : Checked α} (h : FailsBy allowed step)
    (weaker : ∀ fault, allowed fault → more fault) : FailsBy more step :=
  fun fault failed => weaker fault (h fault failed)

theorem FailsBy.bind {first : Checked α} {next : α → Checked β} (h : FailsBy allowed first)
    (rest : ∀ a, FailsBy allowed (next a)) : FailsBy allowed (first >>= next) := by
  intro fault failed
  cases first with
  | error own => exact h fault (congrArg Except.error (Except.error.inj failed))
  | ok a => exact rest a fault failed

theorem FailsBy.map {first : Checked α} (h : FailsBy allowed first) (f : α → β) :
    FailsBy allowed (first.map f) := by
  intro fault failed
  cases first with
  | error own => exact h fault (congrArg Except.error (Except.error.inj failed))
  | ok a => nomatch failed

theorem FailsBy.mapM {f : α → Checked β} (h : ∀ a, FailsBy allowed (f a)) (items : List α) :
    FailsBy allowed (items.mapM f) := by
  induction items with
  | nil => exact failsBy_ok []
  | cons a items ih =>
    rw [List.mapM_cons]
    exact (h a).bind fun b => ih.bind fun rest => failsBy_ok (b :: rest)

end Vitae.Checked
