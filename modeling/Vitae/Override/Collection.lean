import Vitae.Override.Basic
import Vitae.Keyed
import Vitae.Time.Instant

/-!
The overrides of a document, at most one for an element, in the order in which the elements were
first overridden, and the time of the last change.
-/

namespace Vitae

open Time (Instant)

structure OverrideSet where
  entries : List ElementOverride
  lastModified : Instant
  distinct : (entries.map ElementOverride.id).Nodup

namespace OverrideSet

def empty : OverrideSet := ⟨[], Instant.epoch, .nil⟩

def size (s : OverrideSet) : Nat := s.entries.length

def isEmpty (s : OverrideSet) : Bool := s.entries.isEmpty

def get? (s : OverrideSet) (id : ElementId) : Option ElementOverride :=
  Keyed.find? ElementOverride.id id s.entries

def contains (s : OverrideSet) (id : ElementId) : Bool := (s.get? id).isSome

/-- Puts an override, in the place of the one for the same element if there is one. -/
def insert (s : OverrideSet) (o : ElementOverride) (time : Instant) : OverrideSet :=
  ⟨Keyed.upsert ElementOverride.id o s.entries, time, Keyed.nodup_upsert s.distinct⟩

def erase (s : OverrideSet) (id : ElementId) (time : Instant) : OverrideSet :=
  ⟨Keyed.erase ElementOverride.id id s.entries, time, Keyed.nodup_erase s.distinct⟩

/-- Of several overrides for one element the last wins, in the place of the first. -/
def ofList (overrides : List ElementOverride) (time : Instant) : OverrideSet :=
  ⟨overrides.foldl (fun all o => Keyed.upsert ElementOverride.id o all) [], time,
    Keyed.nodup_foldl_upsert .nil⟩

/-- The time in a stored set; none counts as the epoch. -/
def readTime (value : Json) : Checked Instant :=
  if value.truthy then
    match Instant.ofText? value.plainText with
    | some time => .ok time
    | none => .error (.configuration (.invalidInstant value))
  else .ok Instant.epoch

/-- Overrides as a list, or as an object with their ids for keys. -/
def readEntries (value : Json) : Checked (List ElementOverride) := do
  match value with
  | .object members =>
    members.mapM fun (key, body) => ElementOverride.read (.string key) body
  | value => (← value.itemsOf).mapM (ElementOverride.read .null)

/-- The overrides in the members of a stored set: those under `overrides`, or else all members but
the time. -/
def entriesIn (members : List (String × Json)) : Json :=
  match Json.get? "overrides" members with
  | some value => if value.truthy then value else .list []
  | none => .object (members.filter fun (key, _) => key ≠ "lastModified")

/-- Reads a stored set; whatever counts as false is the empty one. -/
def ofJson (value : Json) : Checked OverrideSet := do
  if !value.truthy then return empty
  let members ← value.membersOf
  let time ← readTime (Json.getOrNull "lastModified" members)
  let overrides ← readEntries (entriesIn members)
  if overrides.all fun o => o.id.canLookUp then return ofList overrides time
  else throw (.misuse .wrongType)

def toJson (s : OverrideSet) : Json :=
  .object [("overrides", .list (s.entries.map ElementOverride.toJson)),
    ("lastModified", .string s.lastModified.text)]

end OverrideSet

end Vitae
