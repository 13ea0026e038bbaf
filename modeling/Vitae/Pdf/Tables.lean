import Vitae.Pdf.Search

/-!
The tables of objects in a PDF file: rows of digits with a trailer behind them, or a stream whose
entries serve as the trailer. Each table may lead to an older one. What a newer table or trailer
says holds.
-/

namespace Vitae.Pdf

open Decimal (Number)
open Reading

/-- A row of a table. -/
structure Row where
  ref : Ref
  offset : Int
  kind : Char
  deriving DecidableEq, Repr

/-- The generation that rows of unused objects have. -/
def unusedGeneration : Int := 65535

/-- The pieces of a line between its single spaces. -/
def spacePieces (cs : List Char) : List (List Char) :=
  cs.foldr (fun c pieces =>
    match c, pieces with
    | ' ', pieces => [] :: pieces
    | c, piece :: pieces => (c :: piece) :: pieces
    | c, [] => [[c]]) [[]]

/-- Passes over line ends in front of a row, one by one, the row being read again each time. -/
def skipRowEnds : Nat → List Char → Reading (List Char)
  | 0, line => return line
  | fuel + 1, line => do
    if line.head?.any isLineEnd then
      back 19
      skipRowEnds fuel (← take 20)
    else return line

/-- Reads the row of an object, of twenty characters or one less. Where the row makes no sense the
object is searched for; the row is then of the kind of the row before it. -/
def readRow (id : Int) (before : Option Char) : Reading (Row × Option Char) := do
  let line ← skipRowEnds 20 (← take 20)
  if line.isEmpty then throw (.malformed "A table breaks off")
  if line.getLast?.any fun c => isDigit c || c == 't' then back 1
  let (told, kind) := match spacePieces (line.take 16) with
    | [offset, generation] => (told? offset generation, (line.drop 17).head?)
    | _ => (none, before)
  match told, kind with
  | some (offset, generation), kind => return (⟨⟨id, generation⟩, offset, kind.getD ' '⟩, kind)
  | none, kind =>
    match findLoose? id (← read).text.toList, kind with
    | some (start, r), some kind => return (⟨r, start, kind⟩, some kind)
    | some _, none => throw (.misuse .unset)
    | none, _ => return (⟨⟨id, unusedGeneration⟩, -1, 'f'⟩, some 'f')
where
  told? (offset generation : List Char) : Option (Int × Int) := do
    return (← wholeOf? offset, ← wholeOf? generation)

def readRows : Nat → Int → Option Char → Reading (List Row × Option Char)
  | 0, _, kind => return ([], kind)
  | count + 1, id, kind => do
    let (row, kind) ← readRow id kind
    let (rows, kind) ← readRows count (id + 1) kind
    return (row :: rows, kind)

/-- The rows of a table and the number of the first one. -/
structure Table where
  first : Int := 0
  rows : List Row := []
  /-- Whether the table goes on up to its trailer. -/
  complete : Bool := true

/-- Reads the parts of a table up to the trailer. -/
def readParts : Nat → Option Char → Reading Table
  | 0, _ => throw tooDeep
  | fuel + 1, kind => do
    let first ← value
    skipSpace
    match first, ← value with
    | .number (.whole first), .number (.whole size) =>
      skipSpace
      let (rows, kind) ← readRows size.toNat first kind
      skipSpace
      if (← take 7) = "trailer".toList then return { first, rows }
      else
        back 7
        let rest ← readParts fuel kind
        return { rest with first, rows := rows ++ rest.rows }
    | .number (.whole first), _ => return { first, complete := false }
    | _, _ => throw (.misuse .wrongType)

/-- Adds the entries whose keys are not there yet. -/
def filledBy (entries older : Entries) : Entries :=
  entries ++ older.filter fun (key, _) => (Value.under? key entries).isNone

namespace File

def hasPlace (f : File) (r : Ref) : Bool := (f.places.lookup r).isSome

/-- Adds a row of a table, unless the object is known. -/
def addRow (f : File) (row : Row) : File :=
  if row.kind != 'n' || f.hasPlace row.ref then f
  else { f with places := f.places ++ [(row.ref, row.offset)] }

/-- What an entry says about where to go on. There is nowhere to go where it leads nowhere. -/
def nextPlace (f : File) (key : String) (entries : Entries) : Except Flaw (Option Int) := do
  match Value.under? key entries with
  | none => return none
  | some value =>
    match ← f.resolve value with
    | none => return none
    | some (.number (.whole n)) => return some n
    | some _ => throw (.misuse .wrongType)

/-- A number of some bytes, the high ones first; it counts as negative if it fills eight bytes and
starts with a set bit. A number without any width is as given. -/
def takeField (width : Int) (absent : Int) (data : List Char) : Except Flaw (Int × List Char) :=
  if width ≤ 0 then .ok (absent, data)
  else
    let bytes := data.take width.toNat
    let n : Nat := bytes.foldl (fun n c => 256 * n + c.toNat) 0
    let n : Int := if 0x8000000000000000 ≤ n then (n : Int) - 0x10000000000000000 else n
    if 8 < width then .error (.malformed "A field is too wide")
    else .ok (n, data.drop width.toNat)

/-- The widths of the three fields of an entry. -/
structure Widths where
  kind : Int
  place : Int
  extra : Int

/-- Adds entries for objects from a number on, unless they are known. Of an entry of unknown kind
only the kind is passed over. -/
def addEntries (w : Widths) : Nat → Int → List Char → File → Except Flaw (File × List Char)
  | 0, _, data, f => return (f, data)
  | count + 1, id, data, f => do
    if data.isEmpty && 0 < w.kind then return (f, data)
    let (kind, data) ← takeField w.kind 1 data
    if kind < 0 || 2 < kind then addEntries w count (id + 1) data f
    else
      let (place, data) ← takeField w.place 0 data
      let (extra, data) ← takeField w.extra 0 data
      let r : Ref := ⟨id, if kind = 1 then extra else 0⟩
      let known := f.hasPlace r || (f.packs.lookup id).isSome
      let f :=
        if known || kind = 0 then f
        else if kind = 1 then { f with places := f.places ++ [(r, place)] }
        else { f with packs := f.packs ++ [(id, place)] }
      addEntries w count (id + 1) data f

/-- Adds the entries of a list of parts, each given by its first number and its size. -/
def addParts (w : Widths) : List Int → List Char → File → Except Flaw File
  | first :: size :: rest, data, f => do
    let (f, data) ← addEntries w size.toNat first data f
    addParts w rest data f
  | _, _, f => return f

def wholes (resolve : Resolver) (value : Option Value) : Except Flaw (List Int) := do
  match ← value.elim (.ok none) resolve with
  | some (.list items) =>
    items.mapM fun
      | .number (.whole n) => .ok n
      | _ => .error (.misuse .wrongType)
  | _ => throw (.misuse .wrongType)

/-- Reads the table in a stream at a place, and gives the entries of the stream too. -/
def addTableStream (f : File) (start : Nat) : Except Flaw (File × Entries) := do
  let .stream entries data ← f.read start (do let _ ← readHead; value)
    | throw (.misuse .noMembers)
  if !((← required f.resolve "Type" entries).any (Value.isWord "XRef")) then
    throw (.malformed "Unexpected type")
  let data ← filtered f.resolve entries data
  let size ← requiredWhole f.resolve "Size" entries
  let parts ← match Value.under? "Index" entries with
    | none => pure [0, size]
    | some parts => wholes f.resolve (some parts)
  if parts.length < 2 then throw (.misuse .badValue)
  match ← wholes f.resolve (Value.under? "W" entries) with
  | kind :: place :: extra :: _ => return (← addParts ⟨kind, place, extra⟩ parts data f, entries)
  | _ => throw (.misuse .refuted)

/-- The keys that a table in a stream has in common with a trailer. -/
def trailerKeys : List String := ["Root", "Encrypt", "Info", "ID", "Size"]

/-- What came of reading tables, and where the next one is. -/
structure Progress where
  file : File
  /-- The number of the first row, if it is not zero. -/
  shift : Int := 0
  next : Option Int := none

/-- Reads a table of rows behind its first letter. -/
def addTable (f : File) (start : Nat) : Except Flaw Progress := do
  let (table, stop) ← f.read start do
    if (← take 3) ≠ "ref".toList then throw (.malformed "A table has no beginning")
    skipSpace
    return (← readParts (← MonadReader.read).text.size none, ← position)
  if !table.complete then
    let (f, outcome) := f.rebuilt
    outcome
    return { file := f, shift := table.first }
  let f := table.rows.foldl addRow f
  if f.text.size ≤ stop then return { file := f, shift := table.first }
  match (← f.read stop (do skipSpace; value)).entries? with
  | none => throw (.misuse .noMembers)
  | some trailer =>
    let f := { f with trailer := filledBy f.trailer trailer }
    let f ← match Value.under? "XRefStm" trailer with
      | none => pure f
      | some value =>
        match ← f.resolve value with
        | some (.number (.whole n)) =>
          if n + 1 < 0 then throw (.badValue "negative seek value")
          pure (((f.addTableStream n.toNat).map Prod.fst).toOption.getD f)
        | _ => throw (.misuse .wrongType)
    return { file := f, shift := table.first, next := ← f.nextPlace "Prev" trailer }

/-- Where a table is near to a place without one; none if the search stands in for it. -/
def nearbyTable? (f : File) (place : Nat) (stop : Nat) : Option Int :=
  match find? "xref".toList (f.text.extract (stop - 11) (stop - 11 + 20)).toList with
  | some found => some ((place : Int) - 10 + found)
  | none =>
    ((f.text.extract place (place + 25)).toList.findIdx? isDigit).map fun n => (place + n : Nat)

/-- Reads what is at a place that should be a table, and tells where the next one is. The flag tells
that the file points to no table. -/
def addTableAt (f : File) (astray : Bool) (place : Nat) : Except Flaw Progress := do
  let start := if f.text[place]?.any isLineEnd then place + 1 else place
  let stop := min (start + 1) (max place f.text.size)
  match f.text[start]? with
  | some 'x' => f.addTable (start + 1)
  | c =>
    if astray then return { file := f.rebuilt.1 }
    else if c.any isDigit then
      match f.addTableStream start with
      | .ok (f, entries) =>
        let kept := entries.filter fun (key, _) => trailerKeys.contains key
        let f := { f with trailer := filledBy f.trailer kept }
        return { file := f, next := ← f.nextPlace "Prev" entries }
      | .error _ =>
        if (Value.under? "Root" f.trailer).isSome then return { file := f }
        else throw (.malformed "A table in a stream cannot be read")
    else if place = 0 then return { file := f }
    else
      match f.nearbyTable? place stop with
      | some place => return { file := f, next := some place }
      | none =>
        if (Value.under? "Root" f.trailer).isNone then
          throw (.malformed "There is no table")
        let (f, outcome) := f.rebuilt
        outcome
        return { file := f }

/-- Reads tables from a place on, each telling where the one before it is; a table is read once.
Gives the number of the first row too, if a table does not start with zero. -/
def addTables (astray : Bool) : Nat → List Int → Int → Int → File → Except Flaw (File × Int)
  | 0, _, _, shift, f => return (f, shift)
  | fuel + 1, visited, place, shift, f => do
    if visited.contains place then return (f, shift)
    if place < 0 then throw (.badValue ("negative seek value " ++ Decimal.intText place))
    let progress ← f.addTableAt astray place.toNat
    let shift := if progress.shift = 0 then shift else progress.shift
    match progress.next with
    | some next => addTables astray fuel (place :: visited) next shift progress.file
    | none => return (progress.file, shift)

end File

end Vitae.Pdf
