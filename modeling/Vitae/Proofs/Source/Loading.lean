import Vitae.Proofs.Fault
import Vitae.Source.Load

/-!
Work that looks at the world. What it comes to depends on the files and on the replies to requests
alone, neither on what was done before nor on the certificates of the run. So steps in a row come to
what each of them comes to on its own.
-/

namespace Vitae

namespace Loading

variable {α β : Type}

/-! One step after another -/

theorem run_bind (first : Loading α) (next : α → Loading β) (world : World) (trace : Trace) :
    (first >>= next).run world trace = match first.run world trace with
      | (.ok a, later) => (next a).run world later
      | (.error fault, later) => (.error fault, later) := by
  have step : (first >>= next).run world trace
      = (ExceptT.bindCont (fun a => next a world) (first.run world trace).1).run
        (first.run world trace).2 := rfl
  rw [step]
  rcases first.run world trace with ⟨fault | a, later⟩ <;> rfl

theorem run_ofChecked (result : Checked α) (world : World) (trace : Trace) :
    (ofChecked result).run world trace = (result, trace) := by
  cases result <;> rfl

theorem run_read (world : World) (trace : Trace) :
    Loading.run (read : Loading World) world trace = (.ok world, trace) := rfl

theorem run_modify (f : Trace → Trace) (world : World) (trace : Trace) :
    Loading.run (modify f : Loading Unit) world trace = (.ok (), f trace) := rfl

/-! Values -/

/-- What work comes to on its own. -/
def value (work : Loading α) (world : World) : Checked α := (work.run world).1

/-- Work that comes to the same whatever was done before it, with any certificates. -/
def IsSteady (work : Loading α) : Prop :=
  ∀ (world : World) (certificates : Json) (trace : Trace),
    (work.run { world with certificates } trace).1 = work.value world

theorem IsSteady.fst_run_bind {first : Loading α} {next : α → Loading β} (h : IsSteady first)
    (h' : ∀ a, IsSteady (next a)) (world : World) (certificates : Json) (trace : Trace) :
    ((first >>= next).run { world with certificates } trace).1
      = first.value world >>= fun a => (next a).value world := by
  rw [← h world certificates trace, run_bind]
  rcases first.run { world with certificates } trace with ⟨fault | a, later⟩
  · rfl
  · exact h' a world certificates later

theorem IsSteady.value_bind {first : Loading α} {next : α → Loading β} (h : IsSteady first)
    (h' : ∀ a, IsSteady (next a)) (world : World) :
    (first >>= next).value world = first.value world >>= fun a => (next a).value world :=
  h.fst_run_bind h' world world.certificates {}

/-- Steps in a row succeed only if each of them does on its own. -/
theorem IsSteady.exists_of_bind {first : Loading α} {next : α → Loading β} (h : IsSteady first)
    (h' : ∀ a, IsSteady (next a)) {world : World} {b : β}
    (done : (first >>= next).value world = .ok b) :
    ∃ a, first.value world = .ok a ∧ (next a).value world = .ok b := by
  rw [h.value_bind h'] at done
  exact Checked.bind_eq_ok.mp done

theorem IsSteady.bind {first : Loading α} {next : α → Loading β} (h : IsSteady first)
    (h' : ∀ a, IsSteady (next a)) : IsSteady (first >>= next) := by
  intro world certificates trace
  rw [h.fst_run_bind h', h.value_bind h']

theorem isSteady_ofChecked (result : Checked α) : IsSteady (ofChecked result) := by
  intro world certificates trace
  rw [value, run_ofChecked, run_ofChecked]

theorem value_ofChecked (result : Checked α) (world : World) :
    (ofChecked result).value world = result := by
  rw [value, run_ofChecked]

theorem isSteady_pure (a : α) : IsSteady (pure a : Loading α) := isSteady_ofChecked (.ok a)

/-- All that work can come to in the end is of a kind. -/
def Yields (work : Loading α) (kind : α → Prop) : Prop :=
  ∀ (world : World) (trace : Trace) (a : α), (work.run world trace).1 = .ok a → kind a

theorem yields_pure {kind : α → Prop} {a : α} (h : kind a) : Yields (pure a) kind := by
  intro world trace b done
  obtain rfl := Except.ok.inj (done : Except.ok a = .ok b)
  exact h

/-- The last step decides. -/
theorem Yields.after {kind : β → Prop} {first : Loading α} {next : α → Loading β}
    (h : ∀ a, (next a).Yields kind) : (first >>= next).Yields kind := by
  intro world trace b done
  rw [run_bind] at done
  split at done
  · next a later _ => exact h a world later b done
  · cases done

/-- Work that only tells something, so that what comes after it goes on. -/
structure IsRemark (work : Loading Unit) : Prop where
  steady : IsSteady work
  done : ∀ world, work.value world = .ok ()

theorem IsRemark.value_bind {work : Loading Unit} {next : Unit → Loading β} (h : IsRemark work)
    (h' : IsSteady (next ())) (world : World) :
    (work >>= next).value world = (next ()).value world := by
  rw [h.steady.value_bind (fun _ => h'), h.done, Checked.ok_bind]

theorem isRemark_note (level : LogLevel) (text : String) : IsRemark (note level text) :=
  ⟨fun _ _ _ => rfl, fun _ => rfl⟩

theorem isRemark_forM {f : α → Loading Unit} (h : ∀ a, IsRemark (f a)) (items : List α) :
    IsRemark (items.forM f) := by
  induction items with
  | nil => exact ⟨isSteady_pure (), fun _ => rfl⟩
  | cons a items ih =>
    exact ⟨(h a).steady.bind fun _ => ih.steady, fun world =>
      ((h a).value_bind ih.steady world).trans (ih.done world)⟩

/-- A look at the world that does not depend on the certificates. -/
theorem isSteady_read {look : World → Checked α}
    (same : ∀ world certificates, look { world with certificates } = look world) :
    IsSteady (do ofChecked (look (← read))) := by
  intro world certificates trace
  have step (world : World) (trace : Trace) :
      Loading.run (do ofChecked (look (← read))) world trace = (look world, trace) :=
    run_ofChecked (look world) world trace
  rw [value, step, step, same]

end Loading

namespace Source

open Loading (IsSteady isSteady_ofChecked isSteady_pure isSteady_read)

/-- The certificates are part of what is asked for, not of the reply. -/
theorem isSteady_fetch (url : String) : IsSteady (fetch url) := by
  intro world certificates trace
  rw [Loading.value]
  simp only [fetch, Loading.note, Loading.run_bind, Loading.run_read, Loading.run_modify]
  cases world.reply url with
  | error reason => rfl
  | ok response =>
    dsimp only
    cases response.refusal? url <;> rfl

theorem isSteady_loadJson (source : String) : IsSteady (loadJson source) := by
  unfold loadJson
  split
  · exact (isSteady_fetch source).bind fun _ => isSteady_ofChecked _
  · exact isSteady_read fun _ _ => rfl

theorem isSteady_loadObject (source what : String) : IsSteady (loadObject source what) :=
  (isSteady_loadJson source).bind fun _ => isSteady_ofChecked _

theorem isSteady_loadContent (source : String) : IsSteady (loadContent source) :=
  (isSteady_loadObject source _).bind fun _ => isSteady_ofChecked _

theorem isSteady_loadDescriptor (source : String) : IsSteady (loadDescriptor source) :=
  (isSteady_loadObject source _).bind fun _ => isSteady_ofChecked _

theorem isSteady_loadOverrides (source : Option String) : IsSteady (loadOverrides source) := by
  unfold loadOverrides
  split
  · exact isSteady_pure _
  · exact (isSteady_loadObject _ _).bind fun _ => isSteady_ofChecked _

end Source

end Vitae
