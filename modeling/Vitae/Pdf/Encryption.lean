import Vitae.Pdf.Opening

/-!
Whether a PDF file is encrypted. How it is encrypted has to be described in full; what no one has a
key for is not read any further.
-/

namespace Vitae.Pdf

open Decimal (Binary64 Number)

namespace File

/-- The first of the two identifiers of a file has to be a text, if there are any. -/
def checkIdentifier (f : File) : Except Flaw Unit := do
  match ← (Value.under? "ID" f.trailer).elim (.ok none) f.resolve with
  | none => return ()
  | some (.list []) => return ()
  | some (.list (first :: _)) =>
    match ← f.resolve first with
    | some (.text _) => return ()
    | _ => throw (.misuse .noMembers)
  | some (.dictionary _) => throw (.badValue "0")
  | some (.text []) => return ()
  | some (.text _) => throw (.misuse .noMembers)
  | some (.name _) => throw (.misuse .noMembers)
  | some value => if value.isFull then throw (.misuse .wrongType)

/-- The version of a description; only the first five are known. -/
def encryptionVersion (entries : Entries) : Except Flaw Nat :=
  match Value.under? "V" entries with
  | some (.number n) =>
    match [1, 2, 3, 4, 5].find? fun (version : Nat) =>
      let known : Number := .whole version
      n.le known && known.le n with
    | some version => .ok version
    | none => .error (.misuse .unsupported)
  | _ => .error (.misuse .unsupported)

/-- The method that a description has for a kind of data. -/
def methodFor (f : File) (methods : Option Value) (choice : Value) : Except Flaw Value := do
  if choice.isWord "Identity" then return choice
  match choice, methods.bind Value.entries? with
  | .name name, some methods =>
    match ← required f.resolve name methods with
    | some (.dictionary method) => return ((← required f.resolve "CFM" method).getD .null)
    | _ => throw (.misuse .wrongType)
  | _, _ => throw (.misuse .wrongType)

def isKnownMethod (method : Value) : Bool :=
  ["Identity", "V2", "AESV2", "AESV3"].any method.isWord

def checkMethods (f : File) (entries : Entries) : Except Flaw Unit := do
  let methods ← required f.resolve "CF" entries
  let choice := fun (key : String) (absent : Value) => (Value.under? key entries).getD absent
  let streams := choice "StmF" (.name "Identity")
  let used ← [streams, choice "StrF" (.name "Identity"), choice "EFF" streams].mapM
    (f.methodFor methods)
  if !used.all isKnownMethod then throw (.misuse .unsupported)

/-- A text under a key that has to be there. -/
def checkText (f : File) (entries : Entries) (key : String) : Except Flaw Unit := do
  match ← required f.resolve key entries with
  | some (.text _) => return ()
  | _ => throw (.misuse .noMembers)

/-- Whether a file is encrypted, if it says so in a way that is known. -/
def isEncrypted (f : File) : Except Flaw Bool := do
  let some described := Value.under? "Encrypt" f.trailer | return false
  f.checkIdentifier
  let some entries := (← f.resolve described).bind Value.entries? | throw (.misuse .noMembers)
  if !((Value.under? "Filter" entries).any (Value.isWord "Standard")) then
    throw (.misuse .unsupported)
  if (Value.under? "SubFilter" entries).isSome then throw (.misuse .unsupported)
  if 4 ≤ (← encryptionVersion entries) then f.checkMethods entries
  for key in ["R", "P"] do
    let _ ← required f.resolve key entries
  for key in ["O", "U"] do f.checkText entries key
  return true

end File

end Vitae.Pdf
