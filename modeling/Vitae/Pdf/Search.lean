import Vitae.Pdf.File

/-!
Searching a PDF file for its objects, packs and trailers, where no table tells of them.
-/

namespace Vitae.Pdf

open Reading

/-- Where the first head of an object of a number starts, and the object. The number may be the end
of a longer one. -/
def findLoose? (id : Int) (text : List Char) : Option (Nat × Ref) :=
  go 0 text
where
  go (position : Nat) : List Char → Option (Nat × Ref)
    | [] => none
    | c :: rest =>
      match generationOf? (c :: rest) with
      | some generation => some (position, ⟨id, generation⟩)
      | none => go (position + 1) rest
  generationOf? (cs : List Char) : Option Nat := do
    let cs ← afterGap? (← afterWord? (Decimal.intText id).toList cs)
    let (digits, cs) ← splitDigits? cs
    let _ ← afterWord? "obj".toList (← afterGap? cs)
    return digitsValue digits

/-- All objects in a text, each with where its head starts. -/
def objectHeads (text : Array Char) : List (Ref × Int) :=
  (List.range text.size).filterMap fun here =>
    if text[here]? = some ' ' && (text.extract (here + 1) (here + 4)).toList = "obj".toList then do
      let gap := (here : Int) - 1
      let stop := spanBack isSpace text.size gap
      let (generation, start) := digitsBack stop
      let stop := spanBack isSpace text.size start
      let (id, start) := digitsBack stop
      if generation.isEmpty || id.isEmpty then none
      else some (⟨digitsValue id, digitsValue generation⟩, start + 1)
    else none
where
  at? (position : Int) : Option Char := if position < 0 then none else text[position.toNat]?
  /-- The last position up to a given one whose character is not marked. -/
  spanBack (marked : Char → Bool) : Nat → Int → Int
    | 0, position => position
    | fuel + 1, position =>
      if (at? position).any marked then spanBack marked fuel (position - 1) else position
  /-- The digits that end at a position, and the position in front of them. -/
  digitsBack (stop : Int) : List Char × Int :=
    let start := spanBack isDigit text.size stop
    ((text.extract (start + 1).toNat (stop + 1).toNat).toList, start)

/-- Where the dictionaries behind the words for a trailer start. -/
def trailerStarts (text : Array Char) : List Nat :=
  (List.range text.size).filterMap fun here =>
    if (text.extract here (here + 7)).toList = "trailer".toList then
      let start := here + 7 + spaces text.size (here + 7)
      if (text.extract start (start + 2)).toList = ['<', '<'] then some start else none
    else none
where
  spaces : Nat → Nat → Nat
    | 0, _ => 0
    | fuel + 1, position =>
      if text[position]?.any isSpace then spaces fuel (position + 1) + 1 else 0

/-- The object numbers at the start of the data of a pack, each followed by an offset. -/
def packNumbers : Nat → Reading (List Int)
  | 0 => return []
  | fuel + 1 => do
    let id ← word
    skipSpace
    let offset ← word
    if id.isEmpty || !id.all isDigit || offset.isEmpty || !offset.all isDigit then return []
    return (digitsValue id : Int) :: (← packNumbers fuel)

/-- Replaces the entries under keys that are given anew, and adds the other ones. -/
def overriddenBy (entries new : Entries) : Entries :=
  new ++ entries.filter fun (key, _) => (Value.under? key new).isNone

namespace File

/-- Reads something in a file from a position on. -/
def read {α : Type} (f : File) (start : Nat) (reading : Reading α) : Except Flaw α :=
  reading.run (f.scope f.object) start

/-- The objects that the pack at a place has; none if there is no pack. -/
def packAt (f : File) (place : Int) : List Int :=
  let numbers : Except Flaw (List Int) := do
    let .stream entries data ← f.read place.toNat (do let _ ← readHead; value) | return []
    if !((Value.under? "Type" entries).any (Value.isWord "ObjStm")) then return []
    let data := (← filtered f.resolve entries data).toArray
    (packNumbers data.size).run { f.scope f.object with text := data } 0
  numbers.toOption.getD []

/-- The file with the objects that a search finds. Of several objects with one number, and of
several entries under one key, the last one counts. -/
def searched (f : File) : File :=
  let places := (objectHeads f.text).reverse
  let f := { f with places }
  let packs := places.map fun (r, place) => (f.packAt place).map fun id => (id, r.id)
  { f with packs := packs.flatten ++ f.packs }

/-- Adds the trailers that a search finds, up to one that makes no sense. -/
def withTrailers (f : File) : List Nat → File × Except Flaw Unit
  | [] => (f, .ok ())
  | start :: rest =>
    match (f.read start value).map Value.entries? with
    | .ok (some entries) =>
      withTrailers { f with trailer := overriddenBy f.trailer entries } rest
    | .ok none => withTrailers f rest
    | .error flaw => (f, .error flaw)

/-- The file as a search shows it; the trailers may end in one that makes no sense. -/
def rebuilt (f : File) : File × Except Flaw Unit := f.searched.withTrailers (trailerStarts f.text)

end File

end Vitae.Pdf
