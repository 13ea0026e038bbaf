import Vitae.Proofs.Style.Zones

/-!
The order of the sections. A resolved style names every kind of section, and none of them twice.
-/

namespace Vitae

theorem mem_addKind {order : List SectionKind} {kind other : SectionKind} :
    other ∈ addKind order kind ↔ other ∈ order ∨ other = kind := by
  unfold addKind
  split
  · next known =>
    simp only [List.contains_eq_mem, decide_eq_true_eq] at known
    constructor
    · exact .inl
    · rintro (mem | rfl)
      · exact mem
      · exact known
  · simp

theorem nodup_addKind {order : List SectionKind} (h : order.Nodup) (kind : SectionKind) :
    (addKind order kind).Nodup := by
  unfold addKind
  split
  · exact h
  · next fresh =>
    simp only [List.contains_eq_mem, decide_eq_true_eq] at fresh
    rw [List.nodup_append]
    refine ⟨h, by simp, ?_⟩
    rintro other mem _ last rfl
    obtain rfl : other = kind := by simpa using last
    exact fresh mem

theorem foldl_addKind (kinds : List SectionKind) {order : List SectionKind} (h : order.Nodup) :
    (kinds.foldl addKind order).Nodup
      ∧ ∀ kind, kind ∈ kinds.foldl addKind order ↔ kind ∈ order ∨ kind ∈ kinds := by
  induction kinds generalizing order with
  | nil => simp [h]
  | cons first kinds ih =>
    obtain ⟨distinct, members⟩ := ih (nodup_addKind h first)
    refine ⟨distinct, fun kind => ?_⟩
    rw [List.foldl_cons, members, mem_addKind, List.mem_cons, or_assoc]

theorem nodup_completeOrder (requested : List SectionKind) : (completeOrder requested).Nodup :=
  (foldl_addKind SectionKind.all (foldl_addKind requested .nil).1).1

/-- Whatever kinds are requested, all are there. -/
theorem mem_completeOrder (requested : List SectionKind) (kind : SectionKind) :
    kind ∈ completeOrder requested := by
  have members := (foldl_addKind SectionKind.all (foldl_addKind requested .nil).1).2
  rw [completeOrder, members]
  exact .inr (by cases kind <;> decide)

theorem addKind_of_mem {order : List SectionKind} {kind : SectionKind} (mem : kind ∈ order) :
    addKind order kind = order := by
  simp [addKind, mem]

theorem addKind_of_not_mem {order : List SectionKind} {kind : SectionKind} (fresh : kind ∉ order) :
    addKind order kind = order ++ [kind] := by
  simp [addKind, fresh]

theorem foldl_addKind_of_subset {order kinds : List SectionKind} (known : kinds ⊆ order) :
    kinds.foldl addKind order = order := by
  induction kinds with
  | nil => rfl
  | cons first kinds ih =>
    obtain ⟨own, others⟩ := List.cons_subset.mp known
    rw [List.foldl_cons, addKind_of_mem own, ih others]

theorem foldl_addKind_of_nodup {order kinds : List SectionKind} (h : (order ++ kinds).Nodup) :
    kinds.foldl addKind order = order ++ kinds := by
  induction kinds generalizing order with
  | nil => simp
  | cons first kinds ih =>
    have fresh : first ∉ order := fun mem =>
      (List.nodup_append.mp h).2.2 first mem first List.mem_cons_self rfl
    rw [List.foldl_cons, addKind_of_not_mem fresh, ih (by simpa using h), List.append_assoc,
      List.singleton_append]

/-- There is nothing to add to an order of all kinds. -/
theorem completeOrder_of_complete {order : List SectionKind} (distinct : order.Nodup)
    (complete : ∀ kind, kind ∈ order) : completeOrder order = order := by
  have requested : order.foldl addKind [] = order := foldl_addKind_of_nodup distinct
  rw [completeOrder, requested, foldl_addKind_of_subset fun kind _ => complete kind]

/-- Two orders of all kinds differ in nothing but the order. -/
theorem perm_completeOrder (requested requested' : List SectionKind) :
    (completeOrder requested).Perm (completeOrder requested') := by
  apply (List.perm_ext_iff_of_nodup (nodup_completeOrder _) (nodup_completeOrder _)).mpr
  exact fun kind => iff_of_true (mem_completeOrder _ kind) (mem_completeOrder _ kind)

/-- The order of what is resolved is the one that the request comes to. -/
theorem StyleDescriptor.sectionOrder_of_resolve {d : StyleDescriptor} {r : Resolution}
    (h : d.resolve = .ok r) :
    resolveSectionOrder d.sectionOrder = .ok r.tokens.layout.sectionOrder := by
  unfold resolve at h
  obtain ⟨declarations, -, h⟩ := Checked.bind_eq_ok.mp h
  obtain ⟨order, ordered, h⟩ := Checked.bind_eq_ok.mp h
  obtain rfl := Except.ok.inj h
  exact ordered

/-- The order of a resolved style is complete. -/
theorem StyleTokens.exists_sectionOrder {style : Json} {tokens : StyleTokens}
    (h : ofJson style = .ok tokens) :
    ∃ requested, tokens.layout.sectionOrder = completeOrder requested := by
  obtain ⟨d, r, resolved, rfl⟩ := exists_descriptor_of_ofJson h
  obtain ⟨kinds, -, made⟩ :=
    Checked.bind_eq_ok.mp (StyleDescriptor.sectionOrder_of_resolve resolved)
  exact ⟨kinds, (Except.ok.inj made).symm⟩

theorem StyleTokens.sectionOrder_complete {style : Json} {tokens : StyleTokens}
    (h : ofJson style = .ok tokens) :
    tokens.layout.sectionOrder.Nodup ∧ ∀ kind, kind ∈ tokens.layout.sectionOrder := by
  obtain ⟨requested, order⟩ := exists_sectionOrder h
  rw [order]
  exact ⟨nodup_completeOrder requested, mem_completeOrder requested⟩

end Vitae
