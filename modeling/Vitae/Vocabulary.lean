import Vitae.Fault

/-!
Closed vocabularies: types whose values are written as fixed words.
-/

namespace Vitae

/-- The values of a type in their order, and the word for each. -/
class Vocabulary (α : Type) where
  all : List α
  word : α → String

namespace Vocabulary

variable {α : Type} [Vocabulary α]

def ofWord? (s : String) : Option α := (all : List α).find? fun a => word a == s

def words (α : Type) [Vocabulary α] : List String := (all : List α).map word

/-- The value a JSON text names; nothing else names one. -/
def ofJson? : Json → Option α
  | .string s => ofWord? s
  | _ => none

/-- Reads a word; `field` names it in the message. -/
def read (field : String) (value : Json) : Checked α :=
  match ofJson? value with
  | some a => .ok a
  | none => .error (.configuration (.unknownWord field value (words α)))

/-- Reads a word where the message would have no field to name. -/
def readPlain (value : Json) : Checked α :=
  match ofJson? value with
  | some a => .ok a
  | none => .error (.misuse .badValue)

/-- The value that a table is looked up for. A list or an object is no key at all. -/
def entry (key : Json) : Checked α :=
  match key with
  | .list _ | .object _ => .error (.misuse .wrongType)
  | key =>
    match ofJson? key with
    | some a => .ok a
    | none => .error (.misuse .absentKey)

/-- Refuses a table that misses some value. -/
def requireAll [DecidableEq α] (table : String) (present : List α) : Checked Unit :=
  let missing := (all : List α).filter fun a => !present.contains a
  if missing.isEmpty then .ok ()
  else .error (.configuration (.missingEntries table (missing.map word)))

end Vocabulary

/-- Reads a truth value; no other value counts as one. -/
def readFlag (field : String) (value : Json) : Checked Bool :=
  match value with
  | .bool b => .ok b
  | _ => .error (.configuration (.flagExpected field value))

end Vitae
