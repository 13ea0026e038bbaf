import Vitae.Proofs.Color
import Vitae.Proofs.Keyed
import Vitae.Proofs.Override.History
import Vitae.Proofs.Time.Instant

/-!
Stored overrides. A set is stored as a list of its entries with the time of the last change, and
reading what was stored gives the set back: the entries in their order, and the time with its
offset, if it has one. Only an offset of less than a second is lost.
-/

namespace Vitae

open Time (Instant)

theorem ElementType.ofWord?_word (type : ElementType) :
    Vocabulary.ofWord? type.word = some type := by
  cases type <;> decide

theorem ElementType.isEmpty_word (type : ElementType) : type.word.isEmpty = false := by
  cases type <;> decide

namespace ElementOverride

/-- An override that a set can hold: its id counts as true and can be looked up. -/
structure IsKeyed (o : ElementOverride) : Prop where
  named : o.written.truthy = true
  keyed : o.id.canLookUp = true

theorem truthy_of_read {given value : Json} {o : ElementOverride} (h : read given value = .ok o) :
    o.written.truthy = true := by
  obtain ⟨members, -, h⟩ := Checked.bind_eq_ok.mp h
  obtain ⟨type, -, h⟩ := Checked.bind_eq_ok.mp h
  obtain ⟨hidden, -, h⟩ := Checked.bind_eq_ok.mp h
  split at h
  · cases h
  · next named =>
    obtain ⟨color, -, h⟩ := Checked.bind_eq_ok.mp h
    obtain ⟨background, -, h⟩ := Checked.bind_eq_ok.mp h
    obtain rfl := Except.ok.inj h
    simpa using named

theorem named_of_readEntries {value : Json} {overrides : List ElementOverride}
    (h : OverrideSet.readEntries value = .ok overrides) {o : ElementOverride}
    (mem : o ∈ overrides) : o.written.truthy = true := by
  unfold OverrideSet.readEntries at h
  split at h
  · obtain ⟨entry, -, read⟩ := Checked.exists_of_mem_mapM h mem
    exact truthy_of_read read
  · obtain ⟨items, -, h⟩ := Checked.bind_eq_ok.mp h
    obtain ⟨item, -, read⟩ := Checked.exists_of_mem_mapM h mem
    exact truthy_of_read read

/-- The members an override is stored with. -/
def members (o : ElementOverride) : List (String × Json) :=
  [("elementId", o.written), ("elementType", .string o.type.word), ("hidden", .bool o.hidden)]
    ++ colorMember "colorOverride" o.color ++ colorMember "backgroundOverride" o.background

theorem getOrNull_members (o : ElementOverride) :
    Json.getOrNull "elementId" o.members = o.written
      ∧ Json.getOrNull "elementType" o.members = .string o.type.word
      ∧ Json.get? "hidden" o.members = some (.bool o.hidden) := by
  simp [members, Json.getOrNull, Json.get?]

/-- A colour is stored only where there is one, and nothing counts as none. -/
theorem colorIn_members (o : ElementOverride) (id : Json) :
    colorIn id "colorOverride" o.members = .ok o.color
      ∧ colorIn id "backgroundOverride" o.members = .ok o.background := by
  have some (c : Color) : (Json.string c.hex).truthy = true := by
    simp [Json.truthy, c.isEmpty_hex]
  have none : Json.null.truthy = false := rfl
  unfold colorIn members
  constructor
  · cases o.color <;> cases o.background <;>
      simp [colorMember, Json.getOrNull, Json.get?, some, none, Color.read_hex, Except.map]
  · cases o.color <;> cases o.background <;>
      simp [colorMember, Json.getOrNull, Json.get?, some, none, Color.read_hex, Except.map]

/-- What was stored of an override is read as that override. -/
theorem read_toJson {o : ElementOverride} (named : o.written.truthy = true) :
    read .null o.toJson = .ok o := by
  obtain ⟨id, type, hidden⟩ := o.getOrNull_members
  obtain ⟨color, background⟩ := o.colorIn_members o.written
  have own : idOf .null o.members = o.written := by
    rw [idOf, id, named]
    rfl
  have typed : typeOf o.written o.members = .ok o.type := by
    simp [typeOf, type, Json.truthy, o.type.isEmpty_word, Vocabulary.ofJson?, o.type.ofWord?_word]
  have shown : hiddenIn o.written o.members = .ok o.hidden := by
    simp [hiddenIn, hidden, readFlag]
  have stored : o.toJson.membersOf = .ok o.members := rfl
  rw [read, Checked.bind_of_ok stored]
  dsimp only
  rw [own, Checked.bind_of_ok typed, Checked.bind_of_ok shown, named]
  rw [Checked.bind_of_ok color, Checked.bind_of_ok background]
  rfl

end ElementOverride

namespace OverrideSet

/-- A set all of whose overrides can be held by it. -/
def IsKeyed (s : OverrideSet) : Prop := ∀ o ∈ s.entries, o.IsKeyed

theorem isKeyed_empty : empty.IsKeyed := by
  intro o mem
  cases mem

theorem isKeyed_ofList {overrides : List ElementOverride} (h : ∀ o ∈ overrides, o.IsKeyed)
    (time : Instant) : (ofList overrides time).IsKeyed := by
  intro o mem
  rcases Keyed.mem_of_mem_foldl_upsert mem with mem | mem
  · cases mem
  · exact h o mem

theorem isKeyed_ofJson {value : Json} {s : OverrideSet} (h : ofJson value = .ok s) :
    s.IsKeyed := by
  unfold ofJson at h
  split at h
  · obtain rfl := Except.ok.inj h
    exact isKeyed_empty
  · obtain ⟨members, -, h⟩ := Checked.bind_eq_ok.mp h
    obtain ⟨time, -, h⟩ := Checked.bind_eq_ok.mp h
    obtain ⟨overrides, read, h⟩ := Checked.bind_eq_ok.mp h
    split at h
    · next keyed =>
      obtain rfl := Except.ok.inj h
      apply isKeyed_ofList
      intro o mem
      exact ⟨ElementOverride.named_of_readEntries read mem, List.all_eq_true.mp keyed o mem⟩
    · cases h

variable {s t : OverrideSet}

theorem IsKeyed.made (h : s.IsKeyed) {a : OverrideStep} (keyed : ∀ o ∈ a.outcome, o.IsKeyed) :
    (s.made a).IsKeyed := by
  cases a with
  | remove id time =>
    intro o mem
    exact h o (List.mem_filter.mp mem).1
  | put put time =>
    intro o mem
    rcases Keyed.eq_or_mem_of_mem_upsert mem with rfl | mem
    · exact keyed _ rfl
    · exact h o mem

theorem IsKeyed.foldl_made (h : s.IsKeyed) {steps : List OverrideStep}
    (keyed : ∀ a ∈ steps, ∀ o ∈ a.outcome, o.IsKeyed) :
    (steps.foldl OverrideSet.made s).IsKeyed := by
  induction steps generalizing s with
  | nil => exact h
  | cons a steps ih =>
    exact ih (h.made (keyed a List.mem_cons_self)) fun other mem =>
      keyed other (List.mem_cons_of_mem _ mem)

theorem IsKeyed.run (h : s.IsKeyed) {steps : List OverrideStep} (made : s.run steps = .ok t)
    (named : ∀ a ∈ steps, ∀ o ∈ a.outcome, o.written.truthy = true) : t.IsKeyed := by
  induction steps generalizing s with
  | nil =>
    obtain rfl : s = t := Except.ok.inj made
    exact h
  | cons a steps ih =>
    rw [run_cons] at made
    obtain ⟨next, first, rest⟩ := Checked.bind_eq_ok.mp made
    obtain ⟨rfl, known⟩ := eq_made_of_step first
    exact ih (h.made fun o put => ⟨named a List.mem_cons_self o put, known o put⟩) rest
      fun other mem => named other (List.mem_cons_of_mem _ mem)

theorem ofList_entries (s : OverrideSet) : ofList s.entries s.lastModified = s := by
  have same : s.entries.foldl (fun all o => Keyed.upsert ElementOverride.id o all) [] = s.entries :=
    Keyed.foldl_upsert_of_nodup s.distinct
  simp [ofList, same]

theorem readTime_text (time : Instant) : readTime (.string time.text) = .ok time.asRead := by
  have given : (Json.string time.text).truthy = true := by simp [Json.truthy, time.isEmpty_text]
  have plain : (Json.string time.text).plainText = time.text := by simp [Json.plainText]
  rw [readTime, if_pos given, plain, time.ofText?_text]

theorem mapM_read_toJson {overrides : List ElementOverride}
    (h : ∀ o ∈ overrides, o.written.truthy = true) :
    (overrides.map ElementOverride.toJson).mapM (ElementOverride.read .null) = .ok overrides := by
  induction overrides with
  | nil => rfl
  | cons o overrides ih =>
    rw [List.map_cons, List.mapM_cons,
      Checked.bind_of_ok (ElementOverride.read_toJson (h o List.mem_cons_self)),
      Checked.bind_of_ok (ih fun other mem => h other (List.mem_cons_of_mem _ mem))]
    rfl

/-- What was stored of a set is read as that set, with the time as it is read. -/
theorem IsKeyed.ofJson_toJson (h : s.IsKeyed) :
    ofJson s.toJson = .ok { s with lastModified := s.lastModified.asRead } := by
  let members : List (String × Json) := [
    ("overrides", .list (s.entries.map ElementOverride.toJson)),
    ("lastModified", .string s.lastModified.text)]
  have stored : s.toJson.membersOf = .ok members := rfl
  have time : readTime (Json.getOrNull "lastModified" members) = .ok s.lastModified.asRead :=
    readTime_text s.lastModified
  have whole : ofList s.entries s.lastModified.asRead
      = { s with lastModified := s.lastModified.asRead } :=
    ofList_entries { s with lastModified := s.lastModified.asRead }
  -- An empty list counts as false, and what stands for it is the empty list again.
  have listed : entriesIn members = .list (s.entries.map ElementOverride.toJson) := by
    cases entries : s.entries with
    | nil => simp [members, entries, entriesIn, Json.get?]
    | cons o rest => simp [members, entries, entriesIn, Json.get?, Json.truthy]
  have read : readEntries (entriesIn members) = .ok s.entries := by
    rw [listed]
    exact mapM_read_toJson fun o mem => (h o mem).named
  have keyed : (s.entries.all fun o => o.id.canLookUp) = true :=
    List.all_eq_true.mpr fun o mem => (h o mem).keyed
  have given : s.toJson.truthy = true := rfl
  rw [ofJson, given]
  show (s.toJson.membersOf >>= _) = _
  rw [Checked.bind_of_ok stored, Checked.bind_of_ok time, Checked.bind_of_ok read, if_pos keyed,
    whole]
  rfl

theorem IsKeyed.ofJson_toJson_eq_self_iff (h : s.IsKeyed) :
    ofJson s.toJson = .ok s ↔ s.lastModified.IsLasting := by
  rw [h.ofJson_toJson, ← Instant.asRead_eq_self_iff]
  constructor
  · exact fun same => congrArg lastModified (Except.ok.inj same)
  · exact fun same => by rw [same]

end OverrideSet

/-- Stored overrides return. Whatever set was read, and whatever overrides were put into it and
taken out of it since, each at a time of its own, reading what is stored of it gives a set with the
same entries in the same order and the same time of the last change, at the same offset or at none.
Only an offset of less than a second comes back as zero, and but for that it is the same set. -/
theorem stored_overrides_return {value : Json} {s t : OverrideSet}
    (read : OverrideSet.ofJson value = .ok s) {steps : List OverrideStep}
    (made : s.run steps = .ok t)
    (named : ∀ a ∈ steps, ∀ o ∈ a.outcome, o.written.truthy = true) :
    OverrideSet.ofJson t.toJson = .ok { t with lastModified := t.lastModified.asRead }
      ∧ (OverrideSet.ofJson t.toJson = .ok t ↔
        ∀ offset ∈ t.lastModified.offset, offset = 0 ∨ 1000000 ≤ offset.natAbs) :=
  have keyed := (OverrideSet.isKeyed_ofJson read).run made named
  ⟨keyed.ofJson_toJson, keyed.ofJson_toJson_eq_self_iff⟩

/-- A set with ids for keys, as its author writes it. -/
def authoredOverrides : Json :=
  .object [("summary", .object [("hidden", .bool true)]),
    ("experience-0-title", .object [("colorOverride", .string " C0392B ")]),
    ("lastModified", .string "20260501T1200Z")]

def halfPastTwelve : Instant :=
  { date := { year := 2026, month := 5, day := 1 }
    hour := 12, minute := 30, second := 0, micro := 500000, offset := some (-12600000000) }

/-- The photo is hidden, and the summary is shown again. -/
def laterSteps : List OverrideStep :=
  [.put ⟨.string "header-photo", .photo, true, none, none⟩ .epoch,
    .remove (.text "summary") halfPastTwelve]

/-- What is stored after the steps. -/
def storedLater : Json :=
  .object [
    ("overrides", .list [
      .object [("elementId", .string "experience-0-title"), ("elementType", .string "field"),
        ("hidden", .bool false), ("colorOverride", .string "#c0392b")],
      .object [("elementId", .string "header-photo"), ("elementType", .string "photo"),
        ("hidden", .bool true)]]),
    ("lastModified", .string "2026-05-01T12:30:00.500000-03:30")]

theorem stored_overrides_return_photo :
    ∃ s t, OverrideSet.ofJson authoredOverrides = .ok s ∧ s.run laterSteps = .ok t
      ∧ t.toJson = storedLater ∧ OverrideSet.ofJson storedLater = .ok t := by
  have readable : (OverrideSet.ofJson authoredOverrides).isOk := by decide +kernel
  obtain ⟨s, read⟩ := Checked.exists_of_isOk readable
  have runs : s.run laterSteps = .ok (laterSteps.foldl OverrideSet.made s) := rfl
  have stored : ((OverrideSet.ofJson authoredOverrides).toOption.map
      fun s => (laterSteps.foldl OverrideSet.made s).toJson) = some storedLater := by
    decide +kernel
  rw [read] at stored
  have same : (laterSteps.foldl OverrideSet.made s).toJson = storedLater := Option.some.inj stored
  have named : ∀ a ∈ laterSteps, ∀ o ∈ a.outcome, o.written.truthy = true := by
    intro a mem o put
    rcases List.mem_cons.mp mem with rfl | mem
    · cases put
      rfl
    · obtain rfl := List.mem_singleton.mp mem
      cases put
  have lasting : (laterSteps.foldl OverrideSet.made s).lastModified.IsLasting := by
    rintro offset ⟨⟩
    decide
  exact ⟨s, _, read, runs, same,
    same ▸ (stored_overrides_return read runs named).2.mpr lasting⟩

/-- An offset of half a millisecond. -/
def hardlyLater : Instant := { Instant.epoch with offset := some 500 }

/-- A set that was changed at an offset of half a millisecond comes back with an offset of zero. -/
theorem short_offset_is_lost :
    ∃ s t, OverrideSet.ofJson authoredOverrides = .ok s
      ∧ s.run [.remove (.text "summary") hardlyLater] = .ok t
      ∧ OverrideSet.ofJson t.toJson ≠ .ok t := by
  have readable : (OverrideSet.ofJson authoredOverrides).isOk := by decide +kernel
  obtain ⟨s, read⟩ := Checked.exists_of_isOk readable
  have keyed : (s.erase (.text "summary") hardlyLater).IsKeyed :=
    (OverrideSet.isKeyed_ofJson read).made (a := .remove (.text "summary") hardlyLater)
      fun o put => nomatch put
  refine ⟨s, _, read, rfl, ?_⟩
  intro same
  have lasting := keyed.ofJson_toJson_eq_self_iff.mp same 500 rfl
  exact absurd lasting (by decide)

end Vitae
