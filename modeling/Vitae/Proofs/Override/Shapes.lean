import Vitae.Proofs.Json
import Vitae.Proofs.Override.Storage

/-!
The shapes in which overrides are written. Whether their ids are keys beside the time, keys of an
object of their own or members of a list does not matter, and of several overrides for one element
the last counts, in the place of the first.
-/

namespace Vitae

open Time (Instant)

namespace ElementOverride

/-- An override is read by its id and by its members apart from the one for the id. -/
theorem read_congr {given given' : Json} {members members' : List (String × Json)}
    (id : idOf given members = idOf given' members')
    (same : ∀ key ≠ "elementId", Json.get? key members = Json.get? key members') :
    read given (.object members) = read given' (.object members') := by
  have orNull (key : String) (other : key ≠ "elementId") :
      Json.getOrNull key members = Json.getOrNull key members' := by
    rw [Json.getOrNull, Json.getOrNull, same key other]
  simp only [read, Json.membersOf, Checked.ok_bind, id, typeOf, hiddenIn, colorIn,
    orNull "elementType" (by decide), same "hidden" (by decide),
    orNull "colorOverride" (by decide), orNull "backgroundOverride" (by decide)]

/-- An id that stands in front of an override is an id that the override names. -/
theorem read_putMember {id : String} (nonempty : id ≠ "") (members : List (String × Json)) :
    read (.string id) (.object members)
      = read .null (.object (putMember "elementId" (.string id) members)) := by
  have named : (Json.string id).truthy = true := by simpa [Json.truthy] using nonempty
  apply read_congr
  · have own : Json.getOrNull "elementId" (putMember "elementId" (.string id) members)
        = .string id := by
      rw [Json.getOrNull, Json.get?_putMember, if_pos rfl, Option.getD_some]
    rw [idOf, idOf, own, named]
    rfl
  · intro key other
    rw [Json.get?_putMember, if_neg (Ne.symm other)]

end ElementOverride

namespace OverrideSet

/-! Three shapes -/

/-- The time, if there is one. -/
def timeMember (time : Option Json) : List (String × Json) :=
  time.toList.map fun value => ("lastModified", value)

/-- Members and the time behind them. -/
def timed (time : Option Json) (members : List (String × Json)) : Json :=
  .object (members ++ timeMember time)

/-- Overrides with their ids for keys. -/
def keyed (bodies : List (String × List (String × Json))) : List (String × Json) :=
  bodies.map fun (id, body) => (id, .object body)

/-- Overrides in a row, each with its id among its members. -/
def listed (bodies : List (String × List (String × Json))) : List Json :=
  bodies.map fun (id, body) => .object (putMember "elementId" (.string id) body)

variable {bodies : List (String × List (String × Json))} {members : List (String × Json)}
  {time : Option Json}

/-- The entries of a set that can be made of overrides, if all their ids can be looked up. -/
def collect (overrides : List ElementOverride) (time : Instant) : Checked OverrideSet :=
  if overrides.all fun o => o.id.canLookUp then .ok (ofList overrides time)
  else .error (.misuse .wrongType)

/-- An object is read in the same steps whether there is anything in it or not. -/
theorem ofJson_object (members : List (String × Json)) : ofJson (.object members)
    = readTime (Json.getOrNull "lastModified" members) >>= fun time =>
      readEntries (entriesIn members) >>= fun overrides => collect overrides time := by
  cases members <;> rfl

theorem get?_timed {key : String} (other : key ≠ "lastModified") (members : List (String × Json))
    (time : Option Json) : Json.get? key (members ++ timeMember time) = Json.get? key members := by
  induction members with
  | nil =>
    cases time with
    | none => rfl
    | some value => exact if_neg other.symm
  | cons entry members ih => rw [List.cons_append, Json.get?, ih, Json.get?]

theorem getOrNull_time (free : ∀ entry ∈ members, entry.1 ≠ "lastModified") (time : Option Json) :
    Json.getOrNull "lastModified" (members ++ timeMember time) = time.getD .null := by
  rw [Json.getOrNull]
  induction members with
  | nil => cases time <;> rfl
  | cons entry members ih =>
    rw [List.cons_append, Json.get?, if_neg (free entry List.mem_cons_self)]
    exact ih fun other mem => free other (List.mem_cons_of_mem _ mem)

/-- Apart from the time, the members are read by themselves. -/
theorem ofJson_timed (free : ∀ entry ∈ members, entry.1 ≠ "lastModified") (time : Option Json) :
    ofJson (timed time members) = readTime (time.getD .null) >>= fun instant =>
      readEntries (entriesIn members) >>= fun overrides => collect overrides instant := by
  have bare : (members ++ timeMember time).filter (fun entry => entry.1 ≠ "lastModified")
      = members.filter fun entry => entry.1 ≠ "lastModified" := by
    cases time <;> simp [timeMember, List.filter_append]
  have entries : entriesIn (members ++ timeMember time) = entriesIn members := by
    unfold entriesIn
    rw [get?_timed (by decide) members time]
    cases Json.get? "overrides" members with
    | some value => rfl
    | none => exact congrArg Json.object bare
  rw [timed, ofJson_object, getOrNull_time free time, entries]

theorem entriesIn_keyed (free : ∀ pair ∈ bodies, pair.1 ≠ "overrides" ∧ pair.1 ≠ "lastModified") :
    entriesIn (keyed bodies) = .object (keyed bodies) := by
  have absent : Json.get? "overrides" (keyed bodies) = none := by
    induction bodies with
    | nil => rfl
    | cons pair bodies ih =>
      exact (if_neg (free pair List.mem_cons_self).1).trans
        (ih fun other mem => free other (List.mem_cons_of_mem _ mem))
  have all : (keyed bodies).filter (fun entry => entry.1 ≠ "lastModified") = keyed bodies := by
    refine List.filter_eq_self.mpr fun entry mem => ?_
    obtain ⟨pair, inside, rfl⟩ := List.mem_map.mp mem
    simpa using (free pair inside).2
  rw [entriesIn, absent]
  exact congrArg Json.object all

/-- An object or a list of overrides is read as such even if it is empty and counts as false. -/
theorem readEntries_overrides {value : Json}
    (shape : (∃ members, value = .object members) ∨ ∃ items, value = .list items) :
    readEntries (entriesIn [("overrides", value)]) = readEntries value := by
  have found : Json.get? "overrides" [("overrides", value)] = some value := rfl
  rw [entriesIn, found]
  rcases shape with ⟨_ | _, rfl⟩ | ⟨_ | _, rfl⟩ <;> rfl

/-- The three shapes hold the same overrides. -/
theorem readEntries_keyed (named : ∀ pair ∈ bodies, pair.1 ≠ "") :
    readEntries (.object (keyed bodies)) = readEntries (.list (listed bodies)) := by
  show (keyed bodies).mapM (fun pair => ElementOverride.read (.string pair.1) pair.2)
    = (listed bodies).mapM (ElementOverride.read .null)
  induction bodies with
  | nil => rfl
  | cons pair bodies ih =>
    rw [keyed, listed, List.map_cons, List.map_cons, List.mapM_cons, List.mapM_cons]
    dsimp only
    rw [ElementOverride.read_putMember (named pair List.mem_cons_self)]
    exact congrArg _ (funext fun first => congrArg (· >>= _)
      (ih fun other mem => named other (List.mem_cons_of_mem _ mem)))

/-- A list is read as what is kept of its overrides. -/
theorem ofJson_list {items : List Json} {s : OverrideSet} :
    ofJson (timed time [("overrides", .list items)]) = .ok s ↔
      readTime (time.getD .null) = .ok s.lastModified
        ∧ ∃ overrides, items.mapM (ElementOverride.read .null) = .ok overrides
          ∧ (∀ o ∈ overrides, o.id.canLookUp)
          ∧ Keyed.IsCollected ElementOverride.id overrides s.entries := by
  have free : ∀ entry ∈ [("overrides", Json.list items)], entry.1 ≠ "lastModified" := by simp
  have listed : readEntries (.list items) = items.mapM (ElementOverride.read .null) := rfl
  rw [ofJson_timed free, readEntries_overrides (.inr ⟨items, rfl⟩), listed, Checked.bind_eq_ok]
  constructor
  · rintro ⟨instant, timed, read⟩
    obtain ⟨overrides, each, made⟩ := Checked.bind_eq_ok.mp read
    rw [collect] at made
    split at made
    · next all =>
      obtain rfl := Except.ok.inj made
      exact ⟨timed, overrides, each, List.all_eq_true.mp all, Keyed.isCollected_foldl overrides⟩
    · cases made
  · rintro ⟨timed, overrides, read, all, kept⟩
    refine ⟨_, timed, Checked.bind_eq_ok.mpr ⟨overrides, read, ?_⟩⟩
    rw [collect, if_pos (List.all_eq_true.mpr all)]
    have entries := (Keyed.isCollected_foldl overrides).unique kept
    cases s
    simp_all [ofList]

end OverrideSet

open OverrideSet (timed keyed listed)

/-- Overrides mean the same in every shape. Whatever bodies there are, each with an id that is not
empty and that is no key of a stored set, and whatever time or none, reading them comes to the same
set or the same fault if the ids are keys beside the time, if they are keys of an object under
`overrides`, and if each is put into its body and the bodies stand in a list there. A list is read
if the time, every item and every id in it can be, also if ids come up again, and then as a set with
every id once, in the order in which the ids come up first, each with the override that comes up
last. -/
theorem override_shapes_agree {bodies : List (String × List (String × Json))}
    (proper : ∀ pair ∈ bodies, pair.1 ∉ ["", "overrides", "lastModified"]) (time : Option Json) :
    OverrideSet.ofJson (timed time (keyed bodies))
        = OverrideSet.ofJson (timed time [("overrides", .object (keyed bodies))])
      ∧ OverrideSet.ofJson (timed time [("overrides", .object (keyed bodies))])
        = OverrideSet.ofJson (timed time [("overrides", .list (listed bodies))])
      ∧ ∀ items s, OverrideSet.ofJson (timed time [("overrides", .list items)]) = .ok s ↔
        OverrideSet.readTime (time.getD .null) = .ok s.lastModified
          ∧ ∃ overrides, items.mapM (ElementOverride.read .null) = .ok overrides
            ∧ (∀ o ∈ overrides, o.id.canLookUp)
            ∧ Keyed.IsCollected ElementOverride.id overrides s.entries := by
  have free : ∀ entry ∈ keyed bodies, entry.1 ≠ "lastModified" := by
    intro entry mem
    obtain ⟨pair, inside, rfl⟩ := List.mem_map.mp mem
    intro same
    have time : pair.1 = "lastModified" := same
    exact proper pair inside (by simp [time])
  have wrapped (value : Json) : ∀ entry ∈ [("overrides", value)], entry.1 ≠ "lastModified" := by
    simp
  have plain : OverrideSet.entriesIn (keyed bodies) = .object (keyed bodies) :=
    OverrideSet.entriesIn_keyed fun pair inside =>
      ⟨fun same => proper pair inside (by simp [same]),
        fun same => proper pair inside (by simp [same])⟩
  have same : OverrideSet.readEntries (.object (keyed bodies))
      = OverrideSet.readEntries (.list (listed bodies)) :=
    OverrideSet.readEntries_keyed fun pair inside same => proper pair inside (by simp [same])
  refine ⟨?_, ?_, fun items s => OverrideSet.ofJson_list⟩
  · rw [OverrideSet.ofJson_timed free, plain, OverrideSet.ofJson_timed (wrapped _),
      OverrideSet.readEntries_overrides (.inl ⟨_, rfl⟩)]
  · rw [OverrideSet.ofJson_timed (wrapped _), OverrideSet.ofJson_timed (wrapped _),
      OverrideSet.readEntries_overrides (.inl ⟨_, rfl⟩),
      OverrideSet.readEntries_overrides (.inr ⟨_, rfl⟩), same]

/-- The summary is hidden, under an id that its body gives otherwise, and a highlight is red. -/
def twoBodies : List (String × List (String × Json)) :=
  [("summary", [("elementId", .string "header"), ("hidden", .bool true)]),
    ("experience-0-1", [("colorOverride", .string " C0392B ")])]

/-- What is stored of the two. -/
def storedBodies : Json :=
  .object [
    ("overrides", .list [
      .object [("elementId", .string "summary"), ("elementType", .string "summary"),
        ("hidden", .bool true)],
      .object [("elementId", .string "experience-0-1"), ("elementType", .string "highlight"),
        ("hidden", .bool false), ("colorOverride", .string "#c0392b")]]),
    ("lastModified", .string "2026-05-01T12:00:00+00:00")]

theorem override_shapes_agree_summary :
    (∀ pair ∈ twoBodies, pair.1 ∉ ["", "overrides", "lastModified"])
      ∧ ∃ s, OverrideSet.ofJson (timed (some (.string "20260501T1200Z")) (keyed twoBodies)) = .ok s
        ∧ OverrideSet.ofJson (timed (some (.string "20260501T1200Z"))
          [("overrides", .list (listed twoBodies))]) = .ok s
        ∧ s.toJson = storedBodies := by
  have proper : ∀ pair ∈ twoBodies, pair.1 ∉ ["", "overrides", "lastModified"] := by decide
  obtain ⟨plain, wrapped, -⟩ :=
    override_shapes_agree proper (some (.string "20260501T1200Z"))
  have stored : ((OverrideSet.ofJson (timed (some (.string "20260501T1200Z"))
      (keyed twoBodies))).toOption.map OverrideSet.toJson) = some storedBodies := by decide +kernel
  have readable : (OverrideSet.ofJson (timed (some (.string "20260501T1200Z"))
      (keyed twoBodies))).isOk := by decide +kernel
  obtain ⟨s, read⟩ := Checked.exists_of_isOk readable
  refine ⟨proper, s, read, (plain.trans wrapped) ▸ read, ?_⟩
  rw [read] at stored
  exact Option.some.inj stored

end Vitae
