import Vitae.Fault

/-!
Members of objects. A member that is left out is not found, and nothing else changes.
-/

namespace Vitae.Json

/-- A value without a member. -/
def without (key : String) : Json → Json
  | .object members => .object (members.filter fun entry => entry.1 ≠ key)
  | value => value

theorem get?_filter_self (key : String) (members : List (String × Json)) :
    get? key (members.filter fun entry => entry.1 ≠ key) = none := by
  induction members with
  | nil => rfl
  | cons entry members ih =>
    by_cases own : entry.1 = key
    · rw [List.filter_cons_of_neg (by simp [own]), ih]
    · rw [List.filter_cons_of_pos (by simp [own]), get?, if_neg own, ih]

theorem get?_filter_other {key other : String} (differs : other ≠ key)
    (members : List (String × Json)) :
    get? other (members.filter fun entry => entry.1 ≠ key) = get? other members := by
  induction members with
  | nil => rfl
  | cons entry members ih =>
    by_cases own : entry.1 = key
    · have passed : entry.1 ≠ other := own ▸ differs.symm
      rw [List.filter_cons_of_neg (by simp [own]), ih, get?, if_neg passed]
    · rw [List.filter_cons_of_pos (by simp [own]), get?, get?, ih]

theorem getOrNull_filter_self (key : String) (members : List (String × Json)) :
    getOrNull key (members.filter fun entry => entry.1 ≠ key) = .null := by
  rw [getOrNull, get?_filter_self]
  rfl

theorem getOrNull_filter_other {key other : String} (differs : other ≠ key)
    (members : List (String × Json)) :
    getOrNull other (members.filter fun entry => entry.1 ≠ key) = getOrNull other members := by
  rw [getOrNull, get?_filter_other differs, getOrNull]

/-- Objects whose members are the same but for one. -/
def SameBut (key : String) (a b : Json) : Prop :=
  ∀ other, other ≠ key → a.member? other = b.member? other

/-- Without the member in which they differ, objects have the same members. -/
theorem SameBut.get?_filter {key : String} {members others : List (String × Json)}
    (h : SameBut key (.object members) (.object others)) (other : String) :
    get? other (members.filter fun entry => entry.1 ≠ key)
      = get? other (others.filter fun entry => entry.1 ≠ key) := by
  by_cases differs : other = key
  · rw [differs, get?_filter_self, get?_filter_self]
  · rw [get?_filter_other differs, get?_filter_other differs]
    exact h other differs

theorem get?_putMember (key other : String) (value : Json) (members : List (String × Json)) :
    get? other (putMember key value members)
      = if key = other then some value else get? other members := by
  induction members with
  | nil => rfl
  | cons entry members ih =>
    obtain ⟨k, v⟩ := entry
    rw [putMember]
    by_cases own : k = key
    · subst own
      simp only [if_true, get?]
      split <;> rfl
    · rw [if_neg own, get?, get?, ih]
      by_cases found : k = other
      · rw [if_pos found, if_pos found, if_neg fun same => own (found.trans same.symm)]
      · rw [if_neg found, if_neg found]

theorem mem_of_get? {key : String} {value : Json} {members : List (String × Json)}
    (h : get? key members = some value) : (key, value) ∈ members := by
  induction members with
  | nil => cases h
  | cons entry members ih =>
    rw [get?] at h
    split at h
    · next own =>
      obtain rfl := Option.some.inj h
      exact own ▸ List.mem_cons_self
    · exact List.mem_cons_of_mem _ (ih h)

/-- Where keys are distinct, every member is found. -/
theorem get?_eq_some_iff {key : String} {value : Json} {members : List (String × Json)}
    (distinct : (members.map Prod.fst).Nodup) :
    get? key members = some value ↔ (key, value) ∈ members := by
  refine ⟨mem_of_get?, fun mem => ?_⟩
  induction members with
  | nil => cases mem
  | cons entry members ih =>
    rw [List.map_cons, List.nodup_cons] at distinct
    rw [get?]
    rcases List.mem_cons.mp mem with rfl | mem
    · exact if_pos rfl
    · have other : entry.1 ≠ key := by
        rintro rfl
        exact distinct.1 (List.mem_map.mpr ⟨_, mem, rfl⟩)
      rw [if_neg other, ih distinct.2 mem]

end Vitae.Json
