import Mathlib.Data.List.Induction
import Mathlib.Data.List.Nodup
import Mathlib.Data.Option.Basic
import Vitae.Keyed

/-!
Entries that are put one after the other, and what is kept of them.
-/

namespace Vitae.Keyed

variable {α κ : Type} [DecidableEq κ] {key : α → κ} {put kept other : List α}

theorem mem_of_mem_foldl_upsert {entries more : List α} {entry : α}
    (h : entry ∈ more.foldl (fun all entry => upsert key entry all) entries) :
    entry ∈ entries ∨ entry ∈ more := by
  induction more generalizing entries with
  | nil => exact .inl h
  | cons first more ih =>
    rcases ih h with mem | mem
    · rcases eq_or_mem_of_mem_upsert mem with rfl | mem
      · exact .inr List.mem_cons_self
      · exact .inl mem
    · exact .inr (List.mem_cons_of_mem _ mem)

/-- Entries with keys of their own are put one behind the other. -/
theorem foldl_upsert_of_nodup {entries more : List α} (h : ((entries ++ more).map key).Nodup) :
    more.foldl (fun all entry => upsert key entry all) entries = entries ++ more := by
  induction more generalizing entries with
  | nil => simp
  | cons first more ih =>
    have moved : entries ++ first :: more = (entries ++ [first]) ++ more := by simp
    have fresh : key first ∉ entries.map key := by
      rw [List.map_append, List.nodup_append] at h
      exact fun mem => h.2.2 _ mem _ List.mem_cons_self rfl
    rw [List.foldl_cons, upsert_of_not_mem fresh, moved]
    exact ih (moved ▸ h)

/-- What is kept of entries that are put one after the other: every key once, in the order in which
the keys come up first, with the entry that was put last under it. -/
structure IsCollected (key : α → κ) (put kept : List α) : Prop where
  keys : ∀ k, k ∈ kept.map key ↔ k ∈ put.map key
  order : (kept.map key).Pairwise fun a b => (put.map key).idxOf a < (put.map key).idxOf b
  last : ∀ entry ∈ kept, find? key (key entry) put.reverse = some entry

theorem IsCollected.nodup (h : IsCollected key put kept) : (kept.map key).Nodup :=
  h.order.imp fun {a b} before same => by
    subst same
    exact Nat.lt_irrefl _ before

theorem ne_of_mem_upsert {entry found : α} {entries : List α} (distinct : (entries.map key).Nodup)
    (mem : found ∈ upsert key entry entries) (differs : found ≠ entry) :
    found ∈ entries ∧ key found ≠ key entry := by
  induction entries with
  | nil => exact absurd (List.mem_singleton.mp mem) differs
  | cons first rest ih =>
    rw [List.map_cons, List.nodup_cons] at distinct
    rw [upsert] at mem
    split at mem
    · next same =>
      have later : found ∈ rest := (List.mem_cons.mp mem).resolve_left differs
      refine ⟨List.mem_cons_of_mem _ later, fun again => distinct.1 ?_⟩
      exact List.mem_map.mpr ⟨found, later, again.trans same.symm⟩
    · next other =>
      rcases List.mem_cons.mp mem with rfl | mem
      · exact ⟨List.mem_cons_self, other⟩
      · exact (ih distinct.2 mem).imp_left (List.mem_cons_of_mem _)

theorem IsCollected.upsert (h : IsCollected key put kept) (entry : α) :
    IsCollected key (put ++ [entry]) (upsert key entry kept) := by
  have early {k : κ} (mem : k ∈ put.map key) :
      ((put ++ [entry]).map key).idxOf k = (put.map key).idxOf k := by
    rw [List.map_append, List.idxOf_append_of_mem mem]
  have kept_order : (kept.map key).Pairwise fun a b =>
      ((put ++ [entry]).map key).idxOf a < ((put ++ [entry]).map key).idxOf b := by
    refine h.order.imp_of_mem fun {a b} ha hb before => ?_
    rwa [early ((h.keys a).mp ha), early ((h.keys b).mp hb)]
  constructor
  · intro k
    by_cases present : key entry ∈ kept.map key
    · have old := (h.keys (key entry)).mp present
      rw [map_upsert_of_mem present, h.keys, List.map_append, List.mem_append]
      refine ⟨.inl, fun mem => mem.elim id fun mem => ?_⟩
      obtain rfl : k = key entry := List.mem_singleton.mp mem
      exact old
    · rw [upsert_of_not_mem present, List.map_append, List.map_append, List.mem_append,
        List.mem_append, h.keys]
  · by_cases present : key entry ∈ kept.map key
    · rwa [map_upsert_of_mem present]
    · have keys : (kept ++ [entry]).map key = kept.map key ++ [key entry] := List.map_append
      rw [upsert_of_not_mem present, keys, List.pairwise_append]
      refine ⟨kept_order, List.pairwise_singleton _ _, fun a ha b hb => ?_⟩
      obtain rfl : b = key entry := List.mem_singleton.mp hb
      have fresh : key entry ∉ put.map key := fun mem => present ((h.keys _).mpr mem)
      have mem := (h.keys a).mp ha
      rw [early mem, List.map_append, List.idxOf_append_of_notMem fresh]
      exact Nat.lt_add_right _ (List.idxOf_lt_length_of_mem mem)
  · intro found mem
    rw [List.reverse_append, List.reverse_singleton, List.singleton_append, find?, List.find?_cons]
    by_cases own : found = entry
    · simp [own]
    · obtain ⟨old, differs⟩ := ne_of_mem_upsert h.nodup mem own
      rw [decide_eq_false (Ne.symm differs)]
      exact h.last found old

theorem isCollected_foldl (put : List α) :
    IsCollected key put (put.foldl (fun all entry => Keyed.upsert key entry all) []) := by
  induction put using List.reverseRecOn with
  | nil => exact ⟨fun _ => Iff.rfl, .nil, nofun⟩
  | append_singleton put entry ih =>
    rw [List.foldl_append]
    exact ih.upsert entry

/-- Nothing is left open about what is kept. -/
theorem IsCollected.unique (h : IsCollected key put kept) (h' : IsCollected key put other) :
    kept = other := by
  have perm : (kept.map key).Perm (other.map key) :=
    (List.perm_ext_iff_of_nodup h.nodup h'.nodup).mpr fun k => (h.keys k).trans (h'.keys k).symm
  have keys : kept.map key = other.map key :=
    perm.eq_of_pairwise (fun _ _ _ _ before after => absurd before (Nat.lt_asymm after)) h.order
      h'.order
  have found {entries : List α} (each : IsCollected key put entries) :
      entries.map some = (entries.map key).map fun k => find? key k put.reverse := by
    rw [List.map_map]
    exact List.map_congr_left fun entry mem => (each.last entry mem).symm
  have all : kept.map some = other.map some := by rw [found h, found h', keys]
  exact List.map_injective_iff.mpr (Option.some_injective α) all

end Vitae.Keyed
