import Vitae.Proofs.Preview.Call

/-!
Revisions and what is kept for them. A revision belongs to one state of content, style and overrides
for ever, so whatever is kept for the present revision is the document of the present state, no
matter when and by whom it was compiled.
-/

namespace Vitae

namespace EditSession

variable {τ : Type} {s s' : EditSession τ}

/-! Compiling a snapshot -/

theorem compileSnapshot_congr (same : s'.options = s.options) (v : Snapshot) :
    s'.compileSnapshot v = s.compileSnapshot v := by
  rw [compileSnapshot, compileSnapshot, same]

theorem compileSnapshot_eq_map (s : EditSession τ) (v : Snapshot) :
    s.compileSnapshot v = (compile v.content (.ok v.tokens) v.overrides s.options).map
      fun html => ⟨v.revision, html⟩ := by
  unfold compileSnapshot
  cases compile v.content (.ok v.tokens) v.overrides s.options <;> rfl

theorem revision_of_compileSnapshot {v : Snapshot} {result : Compiled}
    (compiled : s.compileSnapshot v = .ok result) : result.revision = v.revision := by
  rw [compileSnapshot_eq_map] at compiled
  obtain ⟨html, -, rfl⟩ := Checked.map_eq_ok.mp compiled
  rfl

/-- The text of what a snapshot is compiled to. -/
theorem map_html_compileSnapshot (s : EditSession τ) (v : Snapshot) :
    (s.compileSnapshot v).map Compiled.html
      = compile v.content (.ok v.tokens) v.overrides s.options := by
  rw [compileSnapshot_eq_map]
  cases compile v.content (.ok v.tokens) v.overrides s.options <;> rfl

/-! Versions -/

/-- A result that was compiled from one of some versions. -/
def IsOf (versions : List Snapshot) (s : EditSession τ) (result : Compiled) : Prop :=
  ∃ v ∈ versions, s.compileSnapshot v = .ok result

/-- Some versions of a session: the present one is among them and none is later, no two of them have
one revision, and what is kept was compiled from one of them. -/
structure HasVersions (versions : List Snapshot) (s : EditSession τ) : Prop where
  present : s.snapshot ∈ versions
  bounded : ∀ v ∈ versions, v.revision ≤ s.revision
  unique : ∀ v ∈ versions, ∀ v' ∈ versions, v.revision = v'.revision → v = v'
  kept : ∀ result ∈ s.cache, s.IsOf versions result

variable {versions versions' : List Snapshot}

theorem IsOf.mono {result : Compiled} (h : s.IsOf versions result) (more : versions ⊆ versions')
    (same : s'.options = s.options) : s'.IsOf versions' result := by
  obtain ⟨v, mem, compiled⟩ := h
  exact ⟨v, more mem, (compileSnapshot_congr same v).trans compiled⟩

namespace HasVersions

theorem of_fresh (none : s.cache = none) : s.HasVersions [s.snapshot] where
  present := by simp
  bounded := by
    intro v mem
    obtain rfl : v = s.snapshot := by simpa using mem
    exact Nat.le_refl _
  unique := by
    intro v mem v' mem' _
    obtain rfl : v = s.snapshot := by simpa using mem
    obtain rfl : v' = s.snapshot := by simpa using mem'
    rfl
  kept := by
    intro result mem
    rw [none] at mem
    cases mem

theorem of_start {settings : Settings} {debounce : τ} {given : Option EditChannel}
    {content : Content} {style : Checked StyleTokens} {overrides : OverrideSet}
    {mode : Checked RenderMode}
    (opened : start settings debounce given content style overrides mode = .ok s) :
    s.HasVersions [s.snapshot] := by
  obtain ⟨channel, tokens, rendered, -, -, fresh⟩ := eq_of_start opened
  exact .of_fresh (by rw [fresh])

theorem keep (h : s.HasVersions versions) {result : Compiled} (of : s.IsOf versions result) :
    (s.keep result).HasVersions versions where
  present := h.present
  bounded := h.bounded
  unique := h.unique
  kept := by
    intro other mem
    obtain rfl : result = other := Option.some.inj mem
    exact of

theorem of_compilesAs (h : s.HasVersions versions) (same : s.CompilesAs s') :
    s'.HasVersions versions where
  present := same.snapshot ▸ h.present
  bounded := by
    have revision : s'.revision = s.revision := congrArg Snapshot.revision same.snapshot
    rw [revision]
    exact h.bounded
  unique := h.unique
  kept := by
    intro result mem
    rw [same.cache] at mem
    exact (h.kept result mem).mono (List.Subset.refl _) same.options

/-- A commit adds a version, whose revision no earlier one has. -/
theorem of_commit (h : s.HasVersions versions) (next : s'.revision = s.revision + 1)
    (options : s'.options = s.options) (cache : s'.cache = s.cache) :
    s'.HasVersions (s'.snapshot :: versions) where
  present := List.mem_cons_self
  bounded := by
    intro v mem
    rcases List.mem_cons.mp mem with rfl | mem
    · exact Nat.le_refl _
    · have := h.bounded v mem
      omega
  unique := by
    have later : ∀ v ∈ versions, v.revision ≠ s'.snapshot.revision := by
      intro v mem same
      have bound := h.bounded v mem
      have revision : s'.snapshot.revision = s'.revision := rfl
      omega
    intro v mem v' mem' same
    rcases List.mem_cons.mp mem with rfl | mem
    · rcases List.mem_cons.mp mem' with rfl | mem'
      · rfl
      · exact absurd same.symm (later v' mem')
    · rcases List.mem_cons.mp mem' with rfl | mem'
      · exact absurd same (later v mem)
      · exact h.unique v mem v' mem' same
  kept := by
    intro result mem
    rw [cache] at mem
    exact (h.kept result mem).mono (List.subset_cons_self _ _) options

theorem of_effect (h : s.HasVersions versions) {committed : Bool} {edit : Option StagedEdit}
    {stored : Option OverrideSet} (effect : Effect s committed edit stored s') :
    ∃ versions', versions ⊆ versions' ∧ s'.HasVersions versions' := by
  cases effect with
  | rests _ same _ => exact ⟨versions, List.Subset.refl _, h.of_compilesAs same⟩
  | stages _ _ same _ => exact ⟨versions, List.Subset.refl _, h.of_compilesAs same⟩
  | keeps result compiled =>
    exact ⟨versions, List.Subset.refl _, h.keep ⟨s.snapshot, h.present, compiled⟩⟩
  | flushes time => exact ⟨_, List.subset_cons_self _ _, h.of_commit rfl rfl rfl⟩
  | updates content tokens => exact ⟨_, List.subset_cons_self _ _, h.of_commit rfl rfl rfl⟩

/-- What is kept for the revision of a version is what that version is compiled to. -/
theorem compileSnapshot_of_kept (h : s.HasVersions versions) {v : Snapshot} (mem : v ∈ versions)
    {result : Compiled}
    (kept : (s.cache.filter fun result => result.revision = v.revision) = some result) :
    s.compileSnapshot v = .ok result := by
  -- The kept result is of some version, and no other version has its revision.
  obtain ⟨inCache, revision⟩ := Option.filter_eq_some_iff.mp kept
  obtain ⟨v', mem', compiled⟩ := h.kept result inCache
  have same : v'.revision = v.revision := by
    rw [← revision_of_compileSnapshot compiled]
    exact of_decide_eq_true revision
  rwa [← h.unique v' mem' v mem same]

/-- The document of a session is what its present state is compiled to, kept or not. -/
theorem document_eq (h : s.HasVersions versions) :
    s.document.2 = compile s.content (.ok s.tokens) s.overrides s.options := by
  have text := s.map_html_compileSnapshot s.snapshot
  rcases s.document_cases with
    ⟨fault, same, failed⟩ | ⟨result, kept, same⟩ | ⟨result, compiled, same⟩
  · rw [same]
    rwa [failed] at text
  · rw [same]
    rwa [h.compileSnapshot_of_kept h.present kept] at text
  · rw [same]
    rwa [compiled] at text

end HasVersions

theorem options_of_effect {committed : Bool} {edit : Option StagedEdit}
    {stored : Option OverrideSet} (effect : Effect s committed edit stored s') :
    s'.options = s.options := by
  cases effect with
  | rests _ same _ => exact same.options
  | stages _ _ same _ => exact same.options
  | keeps result compiled => rfl
  | flushes time => rfl
  | updates content tokens => rfl

/-- Only a commit changes what documents are compiled from, and every commit is a new revision. -/
theorem snapshot_of_effect {committed : Bool} {edit : Option StagedEdit}
    {stored : Option OverrideSet} (effect : Effect s committed edit stored s') :
    if committed then s'.revision = s.revision + 1 else s'.snapshot = s.snapshot := by
  cases effect with
  | rests _ same _ => simpa using same.snapshot
  | stages _ _ same _ => simpa using same.snapshot
  | keeps result compiled => rfl
  | flushes time => rfl
  | updates content tokens => rfl

/-! Runs of calls -/

variable [Add τ] [LT τ] [DecidableLT τ]

/-- The reply to the call for a document is what the present state is compiled to. -/
theorem HasVersions.reply_document (h : s.HasVersions versions) :
    (s.perform .document).2
      = (compile s.content (.ok s.tokens) s.overrides s.options).map .compiled := by
  rw [perform, replying, h.document_eq]

theorem HasVersions.run (h : s.HasVersions versions) (calls : List (SessionCall τ)) :
    ∃ versions', versions ⊆ versions' ∧ (s.run calls).HasVersions versions' := by
  induction calls generalizing s versions with
  | nil => exact ⟨versions, List.Subset.refl _, h⟩
  | cons call calls ih =>
    obtain ⟨next, more, h⟩ := h.of_effect (s.effect_perform call)
    obtain ⟨last, rest, h⟩ := ih h
    exact ⟨last, List.Subset.trans more rest, h⟩

theorem options_run (s : EditSession τ) (calls : List (SessionCall τ)) :
    (s.run calls).options = s.options := by
  induction calls generalizing s with
  | nil => rfl
  | cons call calls ih => exact (ih _).trans (options_of_effect (s.effect_perform call))

end EditSession

end Vitae
