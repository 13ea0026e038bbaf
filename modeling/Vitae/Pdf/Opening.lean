import Vitae.Pdf.Tables

/-!
Opening a PDF file. Its end says where the newest table of objects is; where it says so wrongly, the
file is searched. Tables that count their objects wrongly are set right, and what is no object is
left out.
-/

namespace Vitae.Pdf

open Reading

namespace File

/-- The head of the object at a place; none if it has no number. -/
def headAt? (f : File) (place : Int) : Except Flaw (Option Ref) :=
  match f.read 0 (do goToPlace place; attempt readHead) with
  | .ok (.ok r) => .ok (some r)
  | .ok (.error (.badValue _)) => .ok none
  | .ok (.error flaw) => .error flaw
  | .error flaw => .error flaw

/-- Moves objects to the numbers in their heads where these are behind by the number of the first
row. -/
def unshift (shift : Int) : List (Ref × Int) → File → Except Flaw File
  | [], f => return f
  | (r, place) :: rest, f => do
    match ← f.headAt? place with
    | none =>
      let (f, outcome) := f.rebuilt
      outcome
      return f
    | some head =>
      if head.id = r.id - shift then
        let others := f.places.filter fun (other, _) =>
          other ≠ r && other ≠ ⟨head.id, r.generation⟩
        unshift shift rest { f with places := (⟨head.id, r.generation⟩, place) :: others }
      else unshift shift rest f

/-- The file without the objects at whose places there are none. -/
def withoutStray (f : File) : Except Flaw File := do
  let places ← f.places.filterM fun (r, place) => do
    if r.generation = unusedGeneration then return true
    return (← f.headAt? place).isSome
  return { f with places }

/-- The lines of a file that are not empty, the last one first. -/
def linesFromEnd (text : List Char) : List (List Char) :=
  (go [] text).foldl (fun lines line => if line.isEmpty then lines else line :: lines) []
where
  go (backwards : List Char) : List Char → List (List Char)
    | [] => [backwards.reverse]
    | c :: rest => if isLineEnd c then backwards.reverse :: go [] rest else go (c :: backwards) rest

/-- Whether a last line is the beginning of an end mark. -/
def isCutEndMark (line : List Char) : Bool :=
  let line := Text.trimChars line
  ["%%EO".toList, "%%E".toList, "%%".toList, "%".toList].any fun mark => mark.isSuffixOf line

/-- The lines before the end mark, going backwards. -/
def beforeEndMark? (text : List Char) : Option (List (List Char)) :=
  match linesFromEnd text with
  | [] => none
  | last :: rest =>
    if isCutEndMark last then some rest
    else
      match (last :: rest).dropWhile fun line => !"%%EOF".toList.isPrefixOf line with
      | [] => none
      | _ :: before => some before

def startMark : List Char := "startxref".toList

/-- Where the file says that its table of objects is. -/
def tablePlace? (text : List Char) : Option Int := do
  match ← beforeEndMark? text with
  | [] => none
  | line :: before =>
    match wholeOf? line with
    | some place => if before.head?.any startMark.isPrefixOf then some place else none
    | none =>
      if startMark.isPrefixOf line then wholeOf? (line.drop startMark.length) else none

/-- Whether there is no table where the file says it is. A table in a stream is recognised by the
head of its object, whose first four characters are not looked at. -/
def isAstray (text : Array Char) (place : Nat) : Bool :=
  if place = 0 then true
  else
    let rest := (text.extract (place - 1) text.size).toList
    let (before, rest) := match rest with
      | 'j' :: c :: rest => (some c, rest)
      | 'j' :: [] => (none, [])
      | c :: rest => (some c, rest)
      | [] => (none, [])
    if !before.all fun c => isLineEnd c || c == ' ' || c == '\t' then true
    else if rest.take 4 = "xref".toList then false
    else
      let head := (rest.drop 4).dropWhile fun c => isDigit c || c == ' ' || c == '\t'
      (head.take 3).map Char.toLower ≠ "obj".toList

end File

/-- Opens a file of these characters. -/
def openFile (text : List Char) : Except Flaw File := do
  let some place := File.tablePlace? text | throw (.malformed "startxref not found")
  let f : File := { text := text.toArray }
  if place < 0 then throw (.badValue ("negative seek value " ++ Decimal.intText place))
  let (f, shift) ←
    File.addTables (File.isAstray f.text place.toNat) (text.length + 1) [] place 0 f
  let inOrder := (f.places.filter fun (r, _) => r.generation ≠ unusedGeneration).mergeSort
    fun x y => x.1.id ≤ y.1.id
  let f ← if shift = 0 then pure f else f.unshift shift inOrder
  f.withoutStray

end Vitae.Pdf
