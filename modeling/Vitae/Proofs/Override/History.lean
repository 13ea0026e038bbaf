import Mathlib.Data.List.Forall2
import Vitae.Proofs.Keyed
import Vitae.Proofs.Override.Agreement

/-!
What a set of overrides becomes step by step. However overrides are put, put again and taken away,
every element has the one that was put last, and the entries stand in the order in which their
elements came in to stay.
-/

namespace Vitae

open Time (Instant)

/-- An override is put, or the one of an element is taken away, at a time. -/
inductive OverrideStep where
  | put (o : ElementOverride) (time : Instant)
  | remove (id : ElementId) (time : Instant)

namespace OverrideStep

def id : OverrideStep → ElementId
  | .put o _ => o.id
  | .remove id _ => id

def time : OverrideStep → Instant
  | .put _ time => time
  | .remove _ time => time

/-- What the element has after the step. -/
def outcome : OverrideStep → Option ElementOverride
  | .put o _ => some o
  | .remove _ _ => none

def Puts (step : OverrideStep) (id : ElementId) : Prop := ∃ o time, step = .put o time ∧ o.id = id

def Removes (step : OverrideStep) (id : ElementId) : Prop := ∃ time, step = .remove id time

/-- The entries after the step. -/
def change (entries : List ElementOverride) : OverrideStep → List ElementOverride
  | .put o _ => Keyed.upsert ElementOverride.id o entries
  | .remove id _ => Keyed.erase ElementOverride.id id entries

theorem not_removes_put (o : ElementOverride) (time : Instant) (id : ElementId) :
    ¬ (put o time).Removes id := by
  rintro ⟨other, same⟩
  cases same

theorem not_puts_remove (gone : ElementId) (time : Instant) (id : ElementId) :
    ¬ (remove gone time).Puts id := by
  rintro ⟨o, other, same, -⟩
  cases same

end OverrideStep

/-- Whether an id tells which entry is meant. Lists and objects cannot be looked up, and what is not
a number is not even equal to itself. -/
def ElementId.isName : ElementId → Bool
  | .compound _ => false
  | .fraction .nan => false
  | _ => true

theorem ElementId.canLookUp_of_isName {id : ElementId} (h : id.isName) : id.canLookUp := by
  cases id <;> first | rfl | cases h

namespace OverrideSet

/-- The set after a step. What cannot be looked up is refused. -/
def step (s : OverrideSet) : OverrideStep → Checked OverrideSet
  | .put o time => if o.id.canLookUp then .ok (s.insert o time) else .error (.misuse .wrongType)
  | .remove id time => .ok (s.erase id time)

def run (s : OverrideSet) (steps : List OverrideStep) : Checked OverrideSet := steps.foldlM step s

/-- The set after a step that is not refused. -/
def made (s : OverrideSet) : OverrideStep → OverrideSet
  | .put o time => s.insert o time
  | .remove id time => s.erase id time

variable {s t : OverrideSet} {a b : OverrideStep} {steps : List OverrideStep} {id : ElementId}

theorem step_of_isName (named : a.id.isName) : s.step a = .ok (s.made a) := by
  cases a with
  | put o time => exact if_pos (ElementId.canLookUp_of_isName named)
  | remove id time => rfl

/-- A step that is not refused puts nothing that cannot be looked up. -/
theorem eq_made_of_step (h : s.step a = .ok t) :
    t = s.made a ∧ ∀ o ∈ a.outcome, o.id.canLookUp = true := by
  cases a with
  | put o time =>
    rw [step] at h
    split at h
    · next known =>
      refine ⟨(Except.ok.inj h).symm, ?_⟩
      rintro other ⟨⟩
      exact known
    · cases h
  | remove id time => exact ⟨(Except.ok.inj h).symm, fun o mem => nomatch mem⟩

theorem run_cons (a : OverrideStep) (steps : List OverrideStep) :
    s.run (a :: steps) = s.step a >>= fun t => t.run steps := List.foldlM_cons

theorem run_of_named (named : ∀ step ∈ steps, step.id.isName) :
    s.run steps = .ok (steps.foldl made s) := by
  induction steps generalizing s with
  | nil => rfl
  | cons a steps ih =>
    rw [run_cons, Checked.bind_of_ok (step_of_isName (named a List.mem_cons_self))]
    exact ih fun other mem => named other (List.mem_cons_of_mem _ mem)

/-! Last writes -/

theorem get?_made (s : OverrideSet) (a : OverrideStep) (id : ElementId) :
    (s.made a).get? id = if a.id = id then a.outcome else s.get? id := by
  cases a with
  | put o time => exact s.get?_insert o time id
  | remove gone time => exact s.get?_erase gone time id

/-- The last step that is about an element. -/
def lastFor (id : ElementId) (steps : List OverrideStep) : Option OverrideStep :=
  steps.reverse.find? fun step => step.id = id

theorem lastFor_concat (id : ElementId) (steps : List OverrideStep) (a : OverrideStep) :
    lastFor id (steps ++ [a]) = if a.id = id then some a else lastFor id steps := by
  rw [lastFor, List.reverse_append, List.reverse_singleton, List.singleton_append,
    List.find?_cons]
  by_cases own : a.id = id
  · simp [own]
  · simp [own, lastFor]

theorem get?_foldl_made (s : OverrideSet) (steps : List OverrideStep) (id : ElementId) :
    (steps.foldl made s).get? id
      = match lastFor id steps with
        | some last => last.outcome
        | none => s.get? id := by
  induction steps using List.reverseRecOn with
  | nil => rfl
  | append_singleton steps a ih =>
    rw [List.foldl_append, List.foldl_cons, List.foldl_nil, get?_made, lastFor_concat]
    by_cases own : a.id = id
    · simp [own]
    · simpa [own] using ih

theorem lastModified_foldl_made (s : OverrideSet) (steps : List OverrideStep) :
    (steps.foldl made s).lastModified
      = (steps.getLast?.map OverrideStep.time).getD s.lastModified := by
  cases steps using List.reverseRecOn with
  | nil => rfl
  | append_singleton steps a =>
    rw [List.foldl_append, List.foldl_cons, List.foldl_nil, List.getLast?_concat]
    cases a <;> rfl

theorem entries_foldl_made (s : OverrideSet) (steps : List OverrideStep) :
    (steps.foldl made s).entries = steps.foldl OverrideStep.change s.entries := by
  induction steps generalizing s with
  | nil => rfl
  | cons a steps ih =>
    rw [List.foldl_cons, ih, List.foldl_cons]
    cases a <;> rfl

end OverrideSet

/-! Places in a history -/

/-- The step at which an element came in to stay. It puts an override for the element, which no
later step takes away; and whatever was put for the element before, was taken away in between. -/
structure EntersAt (history : List OverrideStep) (id : ElementId) (i : Nat) : Prop where
  put : ∃ step, history[i]? = some step ∧ step.Puts id
  kept : ∀ (j : Nat) (step : OverrideStep), i < j → history[j]? = some step → ¬ step.Removes id
  first : ∀ (j : Nat) (step : OverrideStep), j < i → history[j]? = some step → step.Puts id →
    ∃ k gone, j < k ∧ k < i ∧ history[k]? = some gone ∧ gone.Removes id

/-- Whatever was put for an element was taken away after it. -/
def IsGone (history : List OverrideStep) (id : ElementId) : Prop :=
  ∀ (j : Nat) (step : OverrideStep), history[j]? = some step → step.Puts id →
    ∃ (k : Nat) (gone : OverrideStep), j < k ∧ history[k]? = some gone ∧ gone.Removes id

section

variable {history : List OverrideStep} {id : ElementId} {ids : List ElementId} {i j : Nat}
  {step last : OverrideStep}

theorem getElem?_concat_cases (found : (history ++ [last])[j]? = some step) :
    history[j]? = some step ∨ j = history.length ∧ step = last := by
  rcases Nat.lt_or_ge j history.length with before | behind
  · exact .inl (by rwa [List.getElem?_append_left before] at found)
  · rw [List.getElem?_append_right behind] at found
    obtain ⟨bound, same⟩ := List.getElem?_eq_some_iff.mp found
    rw [List.length_singleton] at bound
    refine .inr ⟨by omega, ?_⟩
    rw [← same, List.getElem_singleton]

theorem getElem?_concat_of_getElem? (found : history[j]? = some step) :
    (history ++ [last])[j]? = some step := by
  have bound : j < history.length := (List.getElem?_eq_some_iff.mp found).1
  rwa [List.getElem?_append_left bound]

theorem EntersAt.lt_length (h : EntersAt history id i) : i < history.length := by
  obtain ⟨step, found, -⟩ := h.put
  exact (List.getElem?_eq_some_iff.mp found).1

/-- An element stays where it is under all steps that do not take it away. -/
theorem EntersAt.concat (h : EntersAt history id i) (stays : ¬ last.Removes id) :
    EntersAt (history ++ [last]) id i where
  put := by
    obtain ⟨step, found, puts⟩ := h.put
    exact ⟨step, getElem?_concat_of_getElem? found, puts⟩
  kept := by
    intro j step later found
    rcases getElem?_concat_cases found with found | ⟨-, rfl⟩
    · exact h.kept j step later found
    · exact stays
  first := by
    intro j step earlier found puts
    have bound := h.lt_length
    rcases getElem?_concat_cases found with found | ⟨rfl, -⟩
    · obtain ⟨k, gone, after, before, taken, removes⟩ := h.first j step earlier found puts
      exact ⟨k, gone, after, before, getElem?_concat_of_getElem? taken, removes⟩
    · omega

theorem IsGone.concat (h : IsGone history id) (other : ¬ last.Puts id) :
    IsGone (history ++ [last]) id := by
  intro j step found puts
  rcases getElem?_concat_cases found with found | ⟨-, rfl⟩
  · obtain ⟨k, gone, after, taken, removes⟩ := h j step found puts
    exact ⟨k, gone, after, getElem?_concat_of_getElem? taken, removes⟩
  · exact absurd puts other

theorem isGone_concat_of_removes (removes : last.Removes id) : IsGone (history ++ [last]) id := by
  intro j step found puts
  rcases getElem?_concat_cases found with found | ⟨-, rfl⟩
  · have bound := (List.getElem?_eq_some_iff.mp found).1
    exact ⟨history.length, last, bound, List.getElem?_concat_length, removes⟩
  · obtain ⟨o, time, rfl, -⟩ := puts
    exact absurd removes (OverrideStep.not_removes_put o time id)

/-- An element that was gone, or never there, comes in with the step that puts it. -/
theorem IsGone.entersAt (h : IsGone history id) (puts : last.Puts id) :
    EntersAt (history ++ [last]) id history.length where
  put := ⟨last, List.getElem?_concat_length, puts⟩
  kept := by
    intro j step later found
    have bound := (List.getElem?_eq_some_iff.mp found).1
    rw [List.length_append, List.length_singleton] at bound
    omega
  first := by
    intro j step earlier found again
    rcases getElem?_concat_cases found with found | ⟨rfl, -⟩
    · obtain ⟨k, gone, after, taken, removes⟩ := h j step found again
      exact ⟨k, gone, after, (List.getElem?_eq_some_iff.mp taken).1,
        getElem?_concat_of_getElem? taken, removes⟩
    · omega

/-- The ids of the elements that a history has left, in the order in which they came in to stay. -/
structure IsLeft (history : List OverrideStep) (ids : List ElementId) : Prop where
  places : ∃ places : List Nat, places.Pairwise (· < ·)
    ∧ List.Forall₂ (EntersAt history) ids places
  absent : ∀ id ∉ ids, IsGone history id

theorem exists_forall₂_filter {α β : Type} {R : α → β → Prop} {items : List α} {others : List β}
    (h : List.Forall₂ R items others) (p : α → Bool) :
    ∃ left, left.Sublist others ∧ List.Forall₂ R (items.filter p) left := by
  induction h with
  | nil => exact ⟨[], .slnil, .nil⟩
  | @cons a b items others related rest ih =>
    obtain ⟨left, sublist, all⟩ := ih
    by_cases kept : p a
    · exact ⟨b :: left, sublist.cons_cons b, by simpa [kept] using ⟨related, all⟩⟩
    · exact ⟨left, sublist.cons b, by simpa [kept] using all⟩

theorem forall₂_imp_of_mem {α β : Type} {R S : α → β → Prop} {items : List α} {others : List β}
    (h : List.Forall₂ R items others) (weaker : ∀ a ∈ items, ∀ b, R a b → S a b) :
    List.Forall₂ S items others := by
  induction h with
  | nil => exact .nil
  | @cons a b items others related rest ih =>
    exact .cons (weaker a List.mem_cons_self b related)
      (ih fun a mem => weaker a (List.mem_cons_of_mem _ mem))

theorem lt_length_of_entersAt {places : List Nat} (h : List.Forall₂ (EntersAt history) ids places)
    (mem : i ∈ places) : i < history.length := by
  induction h with
  | nil => cases mem
  | cons enters rest ih =>
    rcases List.mem_cons.mp mem with rfl | mem
    · exact enters.lt_length
    · exact ih mem

/-- An override that is put for an element that is there keeps its place. -/
theorem IsLeft.put_again (h : IsLeft history ids) {o : ElementOverride} (time : Instant)
    (mem : o.id ∈ ids) : IsLeft (history ++ [.put o time]) ids where
  places := by
    obtain ⟨places, ordered, each⟩ := h.places
    exact ⟨places, ordered, each.imp fun id i enters =>
      enters.concat (OverrideStep.not_removes_put o time id)⟩
  absent := by
    intro id outside
    refine (h.absent id outside).concat ?_
    rintro ⟨other, _, same, rfl⟩
    cases same
    exact outside mem

/-- A new one goes to the end. -/
theorem IsLeft.put_new (h : IsLeft history ids) {o : ElementOverride} (time : Instant)
    (fresh : o.id ∉ ids) : IsLeft (history ++ [.put o time]) (ids ++ [o.id]) where
  places := by
    obtain ⟨places, ordered, each⟩ := h.places
    have enters : EntersAt (history ++ [.put o time]) o.id history.length :=
      (h.absent o.id fresh).entersAt ⟨o, time, rfl, rfl⟩
    refine ⟨places ++ [history.length], ?_, ?_⟩
    · rw [List.pairwise_append]
      refine ⟨ordered, List.pairwise_singleton _ _, fun i mem j last => ?_⟩
      obtain rfl := List.mem_singleton.mp last
      exact lt_length_of_entersAt each mem
    · exact List.rel_append (each.imp fun id i entered =>
        entered.concat (OverrideStep.not_removes_put o time id)) (.cons enters .nil)
  absent := by
    intro id outside
    obtain ⟨outside, differs⟩ : id ∉ ids ∧ id ≠ o.id := by simpa using outside
    refine (h.absent id outside).concat ?_
    rintro ⟨other, _, same, rfl⟩
    cases same
    exact differs rfl

/-- An element that is taken away leaves the places of all others as they are. -/
theorem IsLeft.remove (h : IsLeft history ids) (gone : ElementId) (time : Instant) :
    IsLeft (history ++ [.remove gone time]) (ids.filter (· ≠ gone)) where
  places := by
    obtain ⟨places, ordered, each⟩ := h.places
    obtain ⟨left, sublist, each⟩ := exists_forall₂_filter each (· ≠ gone)
    refine ⟨left, ordered.sublist sublist, forall₂_imp_of_mem each fun id mem i enters => ?_⟩
    apply enters.concat
    rintro ⟨_, same⟩
    cases same
    simp at mem
  absent := by
    intro id outside
    by_cases own : id = gone
    · exact isGone_concat_of_removes ⟨time, by rw [own]⟩
    · have outside : id ∉ ids := by simpa [own] using outside
      exact (h.absent id outside).concat (OverrideStep.not_puts_remove gone time id)

/-- What a history leaves of no entries. -/
theorem isLeft_foldl_change (history : List OverrideStep) :
    IsLeft history ((history.foldl OverrideStep.change []).map ElementOverride.id) := by
  induction history using List.reverseRecOn with
  | nil => exact ⟨⟨[], .nil, .nil⟩, fun id _ j step found => by simp at found⟩
  | append_singleton history last ih =>
    rw [List.foldl_append, List.foldl_cons, List.foldl_nil]
    cases last with
    | put o time =>
      rw [OverrideStep.change]
      by_cases known : o.id ∈ (history.foldl OverrideStep.change []).map ElementOverride.id
      · rw [Keyed.map_upsert_of_mem known]
        exact ih.put_again time known
      · rw [Keyed.upsert_of_not_mem known, List.map_append, List.map_singleton]
        exact ih.put_new time known
    | remove gone time =>
      have ids : (Keyed.erase ElementOverride.id gone
            (history.foldl OverrideStep.change [])).map ElementOverride.id
          = ((history.foldl OverrideStep.change []).map ElementOverride.id).filter
            (· ≠ gone) := by
        rw [Keyed.erase, List.filter_map]
        rfl
      rw [OverrideStep.change, ids]
      exact ih.remove gone time

end

/-! Runs -/

namespace OverrideSet

/-- All that was ever done to a set: its first entries are put in their order, and then come the
steps. -/
def history (s : OverrideSet) (steps : List OverrideStep) : List OverrideStep :=
  s.entries.map (fun o => .put o s.lastModified) ++ steps

/-- What a set is after some steps. Every id is there once; an element has what the last step about
it left it, or what it had; a set contains the elements that have an override, and is as large as
there are such elements; it is stored with its entries in the order in which their elements came in
to stay; and its time is that of the last step. -/
structure Follows (s : OverrideSet) (steps : List OverrideStep) (t : OverrideSet) : Prop where
  distinct : (t.entries.map ElementOverride.id).Nodup
  found : ∀ id, t.get? id
    = match lastFor id steps with
      | some last => last.outcome
      | none => s.get? id
  contains : ∀ id, t.contains id ↔ ∃ o, t.get? id = some o
  size : ∀ ids : List ElementId, ids.Nodup → (∀ id, id ∈ ids ↔ t.contains id) →
    t.size = ids.length
  stored : ∃ ids places, (∀ id, id ∈ ids ↔ t.contains id)
    ∧ List.Forall₂ (EntersAt (s.history steps)) ids places ∧ places.Pairwise (· < ·)
    ∧ t.toJson = .object [
      ("overrides", .list ((ids.filterMap t.get?).map ElementOverride.toJson)),
      ("lastModified", .string t.lastModified.text)]
  lastModified : t.lastModified = (steps.getLast?.map OverrideStep.time).getD s.lastModified

variable {s t : OverrideSet} {steps : List OverrideStep}

theorem contains_iff_mem (t : OverrideSet) (id : ElementId) :
    t.contains id ↔ id ∈ t.entries.map ElementOverride.id := t.isSome_get?_iff id

/-- The entries are found again by their ids. -/
theorem filterMap_get?_ids (t : OverrideSet) :
    (t.entries.map ElementOverride.id).filterMap t.get? = t.entries := by
  have own : ∀ o ∈ t.entries, t.get? o.id = some o :=
    fun o mem => get?_eq_some_iff.mpr ⟨mem, rfl⟩
  rw [List.filterMap_map]
  exact (List.filterMap_congr own).trans List.filterMap_some

theorem foldl_change_history (s : OverrideSet) (steps : List OverrideStep) :
    (s.history steps).foldl OverrideStep.change [] = (steps.foldl made s).entries := by
  have first : (s.entries.map fun o => OverrideStep.put o s.lastModified).foldl
      OverrideStep.change [] = s.entries := by
    have distinct : (([] ++ s.entries).map ElementOverride.id).Nodup := s.distinct
    rw [List.foldl_map]
    exact Keyed.foldl_upsert_of_nodup distinct
  rw [history, List.foldl_append, first, entries_foldl_made]

theorem follows_foldl_made (s : OverrideSet) (steps : List OverrideStep) :
    s.Follows steps (steps.foldl made s) := by
  generalize after : steps.foldl made s = t
  have left : IsLeft (s.history steps) (t.entries.map ElementOverride.id) := by
    rw [← after, ← foldl_change_history]
    exact isLeft_foldl_change _
  obtain ⟨places, ordered, each⟩ := left.places
  exact {
    distinct := t.distinct
    found := fun id => after ▸ get?_foldl_made s steps id
    contains := fun id => Option.isSome_iff_exists
    size := by
      intro ids distinct members
      have perm : (t.entries.map ElementOverride.id).Perm ids :=
        (List.perm_ext_iff_of_nodup t.distinct distinct).mpr fun id =>
          (t.contains_iff_mem id).symm.trans (members id).symm
      rw [size, ← perm.length_eq, List.length_map]
    stored := by
      refine ⟨_, places, fun id => (t.contains_iff_mem id).symm, each, ordered, ?_⟩
      rw [t.filterMap_get?_ids]
      rfl
    lastModified := after ▸ lastModified_foldl_made s steps }

/-- Steps about two elements may change places. -/
theorem agrees_swap {a b : OverrideStep} (differs : a.id ≠ b.id) (rest : List OverrideStep) :
    ((a :: b :: rest).foldl made s).Agrees ((b :: a :: rest).foldl made s) := by
  intro id
  rw [get?_foldl_made, get?_foldl_made]
  have last : lastFor id (a :: b :: rest) = lastFor id (b :: a :: rest) := by
    simp only [lastFor, List.reverse_cons, List.append_assoc, List.find?_append]
    by_cases own : a.id = id
    · have other : b.id ≠ id := fun same => differs (own.trans same.symm)
      simp [own, other]
    · simp [own]
  rw [last]

end OverrideSet

/-- A set of overrides keeps what was written last. Whatever set there is, and whatever overrides
are put into it and taken away from it step by step, there is a set after it which follows the
steps. From there on, two steps about different elements leave the same override to every element in
either order, whatever comes behind them; and a step leaves all elements but its own as they were. -/
theorem override_runs_keep_last_writes (s : OverrideSet) {steps : List OverrideStep}
    (named : ∀ step ∈ steps, step.id.isName) :
    ∃ t, s.run steps = .ok t ∧ s.Follows steps t
      ∧ (∀ a b rest, a.id ≠ b.id → (∀ step ∈ a :: b :: rest, step.id.isName) →
        ∃ ab ba, t.run (a :: b :: rest) = .ok ab ∧ t.run (b :: a :: rest) = .ok ba
          ∧ ab.Agrees ba)
      ∧ ∀ a id, a.id.isName → id ≠ a.id →
        ∃ t', t.step a = .ok t' ∧ t'.get? id = t.get? id := by
  refine ⟨_, OverrideSet.run_of_named named, OverrideSet.follows_foldl_made s steps, ?_, ?_⟩
  · intro a b rest differs named
    have swapped : ∀ step ∈ b :: a :: rest, step.id.isName :=
      fun step mem => named step ((List.Perm.swap a b rest).mem_iff.mp mem)
    exact ⟨_, _, OverrideSet.run_of_named named, OverrideSet.run_of_named swapped,
      OverrideSet.agrees_swap differs rest⟩
  · intro a id named differs
    refine ⟨_, OverrideSet.step_of_isName named, ?_⟩
    rw [OverrideSet.get?_made, if_neg differs.symm]

/-- The summary and the photo are hidden. -/
def twoHidden : OverrideSet :=
  .ofList [⟨.string "summary", .summary, true, none, none⟩,
    ⟨.string "header-photo", .photo, true, none, none⟩] .epoch

def shownPhoto : ElementOverride := ⟨.string "header-photo", .photo, false, none, none⟩

/-- The headline is hidden too, the summary is shown and hidden once more, and in between the photo
is shown. -/
def photoSteps : List OverrideStep := [
  .put ⟨.string "header-headline", .headerField, true, none, none⟩ .epoch,
  .remove (.text "summary") .epoch,
  .put shownPhoto .epoch,
  .put ⟨.string "summary", .summary, true, none, none⟩ { Instant.epoch with hour := 1 }]

theorem override_runs_keep_last_writes_photo :
    (∀ step ∈ photoSteps, step.id.isName)
      ∧ ∃ t, twoHidden.run photoSteps = .ok t
        ∧ t.entries.map ElementOverride.id
          = [.text "header-photo", .text "header-headline", .text "summary"]
        ∧ t.get? (.text "header-photo") = some shownPhoto
        ∧ t.lastModified = { Instant.epoch with hour := 1 } := by
  have named : ∀ step ∈ photoSteps, step.id.isName := by decide
  obtain ⟨t, made, follows, -⟩ := override_runs_keep_last_writes twoHidden named
  have ids : (twoHidden.run photoSteps).toOption.map
      (fun t => t.entries.map ElementOverride.id)
      = some [.text "header-photo", .text "header-headline", .text "summary"] := by decide
  rw [made] at ids
  refine ⟨named, t, made, Option.some.inj ids, ?_, follows.lastModified⟩
  rw [follows.found]
  rfl

end Vitae
