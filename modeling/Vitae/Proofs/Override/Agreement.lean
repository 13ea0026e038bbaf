import Mathlib.Data.List.Nodup
import Vitae.Document.Compilation
import Vitae.Proofs.Fault

/-!
Sets of overrides as maps. What a document becomes under overrides depends on the override of each
element alone, not on the order of the entries or on the time of the last change.
-/

namespace Vitae

open Time (Instant)

namespace OverrideSet

theorem get?_insert (s : OverrideSet) (o : ElementOverride) (time : Instant) (id : ElementId) :
    (s.insert o time).get? id = if o.id = id then some o else s.get? id :=
  Keyed.find?_upsert ElementOverride.id id o s.entries

theorem get?_erase (s : OverrideSet) (gone : ElementId) (time : Instant) (id : ElementId) :
    (s.erase gone time).get? id = if gone = id then none else s.get? id :=
  Keyed.find?_erase ElementOverride.id id gone s.entries

theorem get?_eq_some_iff {s : OverrideSet} {id : ElementId} {o : ElementOverride} :
    s.get? id = some o ↔ o ∈ s.entries ∧ o.id = id := by
  constructor
  · intro found
    exact ⟨List.mem_of_find?_eq_some found, by simpa using List.find?_some found⟩
  · rintro ⟨mem, rfl⟩
    cases found : s.get? o.id with
    | none => simpa using List.find?_eq_none.mp found o mem
    | some other =>
      have same : other.id = o.id := by simpa using List.find?_some found
      rw [List.inj_on_of_nodup_map s.distinct (List.mem_of_find?_eq_some found) mem same]

/-- An element has an override in a set if and only if its id is among those of the entries. -/
theorem isSome_get?_iff (s : OverrideSet) (id : ElementId) :
    (s.get? id).isSome ↔ id ∈ s.entries.map ElementOverride.id := by
  simp [get?, Keyed.find?]

/-- Two sets with the same override for every element. -/
def Agrees (s other : OverrideSet) : Prop := ∀ id, s.get? id = other.get? id

variable {s other : OverrideSet}

theorem Agrees.mem_ids (same : s.Agrees other) (id : ElementId) :
    id ∈ s.entries.map ElementOverride.id ↔ id ∈ other.entries.map ElementOverride.id := by
  rw [← isSome_get?_iff, ← isSome_get?_iff, same id]

theorem Agrees.isEmpty_eq (same : s.Agrees other) : s.isEmpty = other.isEmpty := by
  have none (set : OverrideSet) : set.isEmpty ↔ ∀ id, id ∉ set.entries.map ElementOverride.id := by
    rw [isEmpty, List.isEmpty_iff, ← List.eq_nil_iff_forall_not_mem, List.map_eq_nil_iff]
  rw [Bool.eq_iff_iff, none, none]
  exact forall_congr' fun id => not_congr (same.mem_ids id)

/-- The order of the entries does not matter. -/
theorem agrees_of_perm (perm : s.entries.Perm other.entries) : s.Agrees other := by
  intro id
  ext o
  rw [get?_eq_some_iff, get?_eq_some_iff, perm.mem_iff]

theorem Agrees.all_isText (same : s.Agrees other) :
    (s.entries.all fun o => o.id.isText) = other.entries.all fun o => o.id.isText := by
  have named (set : OverrideSet) : (set.entries.all fun o => o.id.isText)
      ↔ ∀ id ∈ set.entries.map ElementOverride.id, id.isText := by
    simp
  rw [Bool.eq_iff_iff, named, named]
  exact forall_congr' fun id => imp_congr_left (same.mem_ids id)

end OverrideSet

/-! Trees -/

variable {s other : OverrideSet}

theorem ElementHead.amendFrom_congr (same : s.Agrees other) (later : List String)
    (h : ElementHead) : h.amendFrom s later = h.amendFrom other later := by
  unfold ElementHead.amendFrom
  simp only [same _]

namespace Element

mutual

theorem amend_congr (same : s.Agrees other) (later : List String) (element : Element) :
    element.amend s later = element.amend other later := by
  match element with
  | .node head children =>
    rw [amend, amend, ElementHead.amendFrom_congr same, amendAll_congr same]

theorem amendAll_congr (same : s.Agrees other) (later : List String) (elements : List Element) :
    amendAll s later elements = amendAll other later elements := by
  match elements with
  | [] => rfl
  | element :: rest => rw [amendAll, amendAll, amend_congr same, amendAll_congr same]

end

end Element

namespace DocumentTree

theorem amendSections_congr (same : s.Agrees other) (sections : List SectionTree) :
    amendSections s sections = amendSections other sections := by
  induction sections with
  | nil => rfl
  | cons t sections ih => rw [amendSections, amendSections, Element.amend_congr same, ih]

theorem amend_congr (same : s.Agrees other) (d : DocumentTree) : d.amend s = d.amend other := by
  rw [amend, amend, Element.amend_congr same, amendSections_congr same]

theorem override_congr (same : s.Agrees other) (d : DocumentTree) :
    d.override s = d.override other := by
  rw [override, override, same.isEmpty_eq, amend_congr same]

/-- An element is named by a text. -/
theorem isText_of_lookUp {d : DocumentTree} {id : ElementId} (found : (d.lookUp id).isSome) :
    id.isText := by
  cases id with
  | text id => rfl
  | _ => cases found

/-- Overrides are applied if their ids are texts. Any other id names no element, so it is stale, and
cannot be told. -/
theorem applyOverrides_eq (s : OverrideSet) (d : DocumentTree) : d.applyOverrides s
    = if s.entries.all fun o => o.id.isText then .ok (d.override s, d.overrideReport s)
      else .error (.misuse .wrongType) := by
  have told : (d.overrideReport s).stale.all ElementId.isText
      = s.entries.all fun o => o.id.isText := by
    unfold overrideReport
    split
    · next none =>
      have entries : s.entries = [] := by simpa [OverrideSet.isEmpty] using none
      rw [entries]
      rfl
    · have stale : (d.report s).stale = idsWhere (fun _ found => found.isNone) s d := rfl
      rw [stale, idsWhere, List.all_map, List.all_filter]
      congr 1
      funext o
      cases found : d.lookUp o.id with
      | none => simp
      | some h =>
        have named : o.id.isText := isText_of_lookUp (by rw [found]; rfl)
        simp [named]
  rw [applyOverrides, told]

theorem applyOverrides_of_isText (named : ∀ o ∈ s.entries, o.id.isText) (d : DocumentTree) :
    d.applyOverrides s = .ok (d.override s, d.overrideReport s) := by
  rw [applyOverrides_eq, if_pos (List.all_eq_true.mpr named)]

theorem applyOverrides_of_not_isText {o : ElementOverride} (mem : o ∈ s.entries)
    (unnamed : o.id.isText = false) (d : DocumentTree) :
    d.applyOverrides s = .error (.misuse .wrongType) := by
  have notAll : ¬ s.entries.all fun o => o.id.isText := by
    rw [List.all_eq_true]
    intro named
    simp [named o mem] at unnamed
  rw [applyOverrides_eq, if_neg notAll]

theorem eq_of_applyOverrides {d after : DocumentTree} {report : OverrideReport}
    (applied : d.applyOverrides s = .ok (after, report)) :
    (∀ o ∈ s.entries, o.id.isText) ∧ after = d.override s ∧ report = d.overrideReport s := by
  rw [applyOverrides_eq] at applied
  split at applied
  · next named =>
    obtain ⟨rfl, rfl⟩ := Prod.mk.inj (Except.ok.inj applied)
    exact ⟨List.all_eq_true.mp named, rfl, rfl⟩
  · cases applied

end DocumentTree

/-! Documents -/

/-- The tree of a document is the one of its content, with ids, under overrides that are texts. -/
theorem compiledTree_eq_ok_iff {content : Content} {layout : LayoutTokens} {tree : DocumentTree} :
    compiledTree content layout s = .ok tree ↔ (∀ o ∈ s.entries, o.id.isText)
      ∧ ∃ d, (DocumentTree.assemble content layout).identify = .ok d ∧ tree = d.override s := by
  unfold compiledTree
  constructor
  · intro compiled
    obtain ⟨d, identified, compiled⟩ := Checked.bind_eq_ok.mp compiled
    obtain ⟨⟨after, report⟩, applied, compiled⟩ := Checked.bind_eq_ok.mp compiled
    obtain rfl : after = tree := Except.ok.inj compiled
    obtain ⟨named, rfl, -⟩ := DocumentTree.eq_of_applyOverrides applied
    exact ⟨named, d, identified, rfl⟩
  · rintro ⟨named, d, identified, rfl⟩
    rw [Checked.bind_of_ok identified,
      Checked.bind_of_ok (DocumentTree.applyOverrides_of_isText named d)]
    rfl

/-- Sets that agree on every element give one document, or one fault. -/
theorem compile_congr (same : s.Agrees other) (content : Content) (style : Checked StyleTokens)
    (options : RenderOptions) : compile content style s options
      = compile content style other options := by
  have tree (layout : LayoutTokens) :
      compiledTree content layout s = compiledTree content layout other := by
    unfold compiledTree
    congr 1
    funext tree
    rw [DocumentTree.applyOverrides_eq, DocumentTree.applyOverrides_eq, same.all_isText,
      DocumentTree.override_congr same]
    split <;> rfl
  simp only [compile, compileWith, tree]

end Vitae
