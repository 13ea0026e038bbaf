/-!
Lists in which every entry has a key of its own. A new entry goes to the end, and an entry whose key
is there already takes the place of the old one.
-/

namespace Vitae.Keyed

variable {α κ : Type} [DecidableEq κ]

def find? (key : α → κ) (k : κ) (entries : List α) : Option α :=
  entries.find? fun entry => key entry = k

def upsert (key : α → κ) (entry : α) : List α → List α
  | [] => [entry]
  | other :: rest =>
    if key other = key entry then entry :: rest else other :: upsert key entry rest

def erase (key : α → κ) (k : κ) (entries : List α) : List α :=
  entries.filter fun entry => key entry ≠ k

theorem map_upsert_of_mem {key : α → κ} {entry : α} {entries : List α}
    (h : key entry ∈ entries.map key) : (upsert key entry entries).map key = entries.map key := by
  induction entries with
  | nil => simp at h
  | cons other rest ih =>
    rw [upsert]
    split
    · next same => simp [same]
    · next differs =>
      have : key entry ∈ rest.map key := by
        simp only [List.map_cons, List.mem_cons] at h
        exact h.resolve_left fun same => differs same.symm
      simp [ih this]

theorem upsert_of_not_mem {key : α → κ} {entry : α} {entries : List α}
    (h : key entry ∉ entries.map key) : upsert key entry entries = entries ++ [entry] := by
  induction entries with
  | nil => rfl
  | cons other rest ih =>
    simp only [List.map_cons, List.mem_cons, not_or] at h
    rw [upsert, if_neg (Ne.symm h.1), ih h.2, List.cons_append]

theorem upsert_ne_nil (key : α → κ) (entry : α) (entries : List α) :
    upsert key entry entries ≠ [] := by
  cases entries with
  | nil => exact List.cons_ne_nil _ _
  | cons other rest =>
    rw [upsert]
    split <;> exact List.cons_ne_nil _ _

theorem eq_or_mem_of_mem_upsert {key : α → κ} {entry other : α} {entries : List α}
    (h : other ∈ upsert key entry entries) : other = entry ∨ other ∈ entries := by
  induction entries with
  | nil => exact .inl (List.mem_singleton.mp h)
  | cons first rest ih =>
    rw [upsert] at h
    split at h
    · exact (List.mem_cons.mp h).imp_right (List.mem_cons_of_mem _)
    · rcases List.mem_cons.mp h with rfl | h
      · exact .inr List.mem_cons_self
      · exact (ih h).imp_right (List.mem_cons_of_mem _)

theorem nodup_upsert {key : α → κ} {entry : α} {entries : List α}
    (h : (entries.map key).Nodup) : ((upsert key entry entries).map key).Nodup := by
  by_cases present : key entry ∈ entries.map key
  · rwa [map_upsert_of_mem present]
  · rw [upsert_of_not_mem present, List.map_append, List.nodup_append]
    refine ⟨h, by simp, fun a ha b hb same => present ?_⟩
    simp only [List.map_cons, List.map_nil, List.mem_singleton] at hb
    rwa [← hb, ← same]

theorem nodup_erase {key : α → κ} {k : κ} {entries : List α}
    (h : (entries.map key).Nodup) : ((erase key k entries).map key).Nodup :=
  h.sublist (List.filter_sublist.map key)

theorem nodup_foldl_upsert {key : α → κ} {entries more : List α} (h : (entries.map key).Nodup) :
    ((more.foldl (fun all entry => upsert key entry all) entries).map key).Nodup := by
  induction more generalizing entries with
  | nil => exact h
  | cons entry rest ih => exact ih (nodup_upsert h)

/-- An entry is found under its own key and hides nothing else. -/
theorem find?_upsert (key : α → κ) (k : κ) (entry : α) (entries : List α) :
    find? key k (upsert key entry entries)
      = if key entry = k then some entry else find? key k entries := by
  induction entries with
  | nil =>
    by_cases own : key entry = k
    · simp [upsert, find?, own]
    · simp [upsert, find?, own]
  | cons other rest ih =>
    unfold find? at ih ⊢
    rw [upsert]
    by_cases same : key other = key entry
    · by_cases own : key entry = k
      · simp [same, own]
      · simp [same, own]
    · rw [if_neg same, List.find?_cons, ih, List.find?_cons]
      by_cases own : key entry = k
      · have differs : key other ≠ k := own ▸ same
        simp [own, differs]
      · simp [own]

theorem find?_erase (key : α → κ) (k other : κ) (entries : List α) :
    find? key k (erase key other entries) = if other = k then none else find? key k entries := by
  induction entries with
  | nil => simp [erase, find?]
  | cons entry rest ih =>
    unfold find? erase at ih ⊢
    by_cases gone : key entry = other
    · rw [List.filter_cons_of_neg (by simp [gone]), ih]
      by_cases own : other = k
      · simp [own]
      · simp [own, gone]
    · rw [List.filter_cons_of_pos (by simp [gone]), List.find?_cons, ih, List.find?_cons]
      by_cases own : other = k
      · have differs : key entry ≠ k := own ▸ gone
        simp [own, differs]
      · simp [own]

end Vitae.Keyed
