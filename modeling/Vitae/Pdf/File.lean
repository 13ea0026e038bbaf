import Vitae.Pdf.Filter

/-!
A PDF file and its objects. An object stands at its place in the file, or in a pack of objects that
is the data of a stream. Where there is no such object at its place, the file is searched for its
head.
-/

namespace Vitae.Pdf

open Decimal (Number)
open Reading

structure File where
  text : Array Char
  /-- Where objects stand; the first place of an object counts. -/
  places : List (Ref × Int) := []
  /-- The pack that an object is in; the first one counts. -/
  packs : List (Int × Int) := []
  trailer : Entries := []
  deriving Repr

/-- A text without a word at its start. -/
def afterWord? (word cs : List Char) : Option (List Char) :=
  if word.isPrefixOf cs then some (cs.drop word.length) else none

/-- What follows the head of an object that a text starts with. -/
def afterHead? (r : Ref) (cs : List Char) : Option (List Char) := do
  let cs ← afterGap? (← afterWord? (Decimal.intText r.id).toList cs)
  let cs ← afterGap? (← afterWord? (Decimal.intText r.generation).toList cs)
  afterWord? "obj".toList cs

/-- Where the head of an object starts and ends. White space has to be in front of it. -/
def findHead? (r : Ref) (text : List Char) : Option (Nat × Nat) :=
  go text.length text
where
  go (size : Nat) : List Char → Option (Nat × Nat)
    | [] => none
    | c :: rest =>
      match if isGap c then afterHead? r rest else none with
      | some after => some (size - rest.length, size - after.length)
      | none => go size rest

/-- Goes to a place, which must not be in front of the file. -/
def goToPlace (place : Int) : Reading Unit :=
  if place < 0 then throw (.badValue ("negative seek value " ++ Decimal.intText place))
  else goTo place.toNat

/-- Reads the object at a place: there, or where its head is found, or else wherever the search for
its head has led to. -/
def readObjectAt (place : Int) (r : Ref) : Reading Value := do
  goToPlace place
  let here ← match ← attempt readHead with
    | .ok found => pure (found = r : Bool)
    | .error _ => pure false
  if !here then
    if let some (start, _) := findHead? r (← read).text.toList then
      goTo start
      let _ ← readHead
  value

/-- Reads an object that has no place. Its value starts one character after its head. -/
def readUnplaced (r : Ref) : Reading (Option Value) := do
  match findHead? r (← read).text.toList with
  | some (_, stop) =>
    goTo (stop + 1)
    skipSpace
    return some (← value)
  | none => return none

/-- The next number in a pack. -/
def readPackNumber : Reading Number := do
  skipSpace
  return numberOf (← takeUntil (!isNumeric ·))

/-- A number without its fraction. -/
def towardZero : Number → Int
  | .whole n => n
  | .binary x => (x.ratio?.map fun (n, d) => n.tdiv d).getD 0

/-- Reads an object in a pack. So many pairs of numbers come first, which say where each object
starts. -/
def readPacked (id first : Int) : Nat → Reading Value
  | 0 => return .null
  | count + 1 => do
    let found ← readPackNumber
    let offset ← readPackNumber
    skipSpace
    if found = .whole id then
      goToPlace (first + towardZero offset)
      skipSpace
      match ← attempt value with
      | .ok value => return value
      | .error (.truncated _) => return .null
      | .error flaw => throw flaw
    else readPacked id first count

namespace File

def scope (f : File) (lookUp : Ref → Except Flaw (Option Value)) : Scope :=
  ⟨f.text, f.places.map Prod.snd, lookUp⟩


/-- A value under a key that has to be there, with a reference followed. -/
def required (resolve : Resolver) (key : String) (entries : Entries) :
    Except Flaw (Option Value) :=
  match Value.under? key entries with
  | some value => resolve value
  | none => .error (.absentKey key)

/-- A whole number under a key that has to be there. -/
def requiredWhole (resolve : Resolver) (key : String) (entries : Entries) : Except Flaw Int := do
  match ← required resolve key entries with
  | some (.number n) => return towardZero n
  | _ => throw (.misuse .wrongType)

def following (lookUp : Ref → Except Flaw (Option Value)) : Resolver
  | .reference r => lookUp r
  | value => .ok (some value)

/-- An object in the data of a stream that is a pack of objects. -/
def unpack (lookUp : Ref → Except Flaw (Option Value)) (places : List Int) (id pack : Int) :
    Except Flaw Value := do
  let resolve := following lookUp
  let some holder ← lookUp ⟨pack, 0⟩ | throw (.misuse .wrongType)
  let some entries := holder.entries? | throw (.misuse .wrongType)
  if !((← required resolve "Type" entries).any (Value.isWord "ObjStm")) then
    throw (.misuse .refuted)
  let .stream _ data := holder | throw (.misuse .noMembers)
  let data ← filtered resolve entries data
  let count ← requiredWhole resolve "N" entries
  let first ← requiredWhole resolve "First" entries
  (readPacked id first (min count.toNat (data.length + 2))).run ⟨data.toArray, places, lookUp⟩ 0

/-- An object of a file, unless there is none. The number bounds how often reading an object leads
to another one. -/
def objectWithin (f : File) : Nat → Ref → Except Flaw (Option Value)
  | 0, _ => .error (.malformed "Objects lead to each other without end")
  | fuel + 1, r => do
    let lookUp := f.objectWithin fuel
    let pack := if r.generation = 0 then f.packs.lookup r.id else none
    let found ← match pack, f.places.lookup r with
      | some pack, _ => some <$> unpack lookUp (f.places.map Prod.snd) r.id pack
      | none, some place => some <$> (readObjectAt place r).run (f.scope lookUp) 0
      | none, none => (readUnplaced r).run (f.scope lookUp) 0
    match found with
    | some (.reference _) => throw (.malformed "An object is nothing but a reference")
    | found => return found

/-- An object of a file, unless there is none. -/
def object (f : File) (r : Ref) : Except Flaw (Option Value) := f.objectWithin (f.text.size + 2) r

/-- A value with a reference followed. -/
def resolve (f : File) : Resolver := following f.object

end File

end Vitae.Pdf
