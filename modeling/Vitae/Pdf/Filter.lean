import Vitae.Compression.Inflate
import Vitae.Pdf.Syntax

/-!
Stream data as the filters of the stream leave them. A filter undoes one way of writing bytes; those
that a table of objects or a pack of objects has use for are known.
-/

namespace Vitae.Pdf

open Decimal (Number)

/-- How a value that may be a reference is found. -/
abbrev Resolver := Value → Except Flaw (Option Value)

/-- A whole number under a key, or else a number that is taken for it. -/
def wholeUnder (resolve : Resolver) (key : String) (absent : Int) (entries : Entries) :
    Except Flaw Int := do
  match Value.under? key entries with
  | none => return absent
  | some value =>
    match ← resolve value with
    | some (.number (.whole n)) => return n
    | _ => throw (.misuse .wrongType)

/-- The form of the rows that samples are in. -/
structure Layout where
  columns : Nat
  /-- The bytes of a row. -/
  width : Nat
  deriving DecidableEq, Repr

/-- How far back the sample to the left is. -/
def Layout.step (l : Layout) : Nat := l.width / l.columns

def layoutOf (resolve : Resolver) (parameters : Entries) : Except Flaw Layout := do
  let columns ← wholeUnder resolve "Columns" 1 parameters
  let colors ← wholeUnder resolve "Colors" 1 parameters
  let bits ← wholeUnder resolve "BitsPerComponent" 8 parameters
  if columns ≤ 0 || colors < 0 || bits < 0 then throw (.malformed "Unsupported row layout")
  return ⟨columns.toNat, ((columns * colors * bits).toNat + 7) / 8⟩

/-- The one of three neighbours that is nearest to left plus up less the one between them. -/
def nearestNeighbour (left up between : Nat) : Nat :=
  let estimate : Int := left + up - between
  let away := fun (n : Nat) => (estimate - n).natAbs
  if away left ≤ away up && away left ≤ away between then left
  else if away up ≤ away between then up
  else between

/-- What is added to a byte of a row by its kind. -/
def predicted? (kind left up between : Nat) : Option Nat :=
  match kind with
  | 0 => some 0
  | 1 => some left
  | 2 => some up
  | 3 => some ((left + up) / 2)
  | 4 => some (nearestNeighbour left up between)
  | _ => none

/-- A row, given the row above it. The row itself grows from the left. -/
def undoRow? (step kind : Nat) (above : Array Nat) (row : List Nat) : Option (Array Nat) :=
  row.foldlM (fun done byte => do
    let i := done.size
    let before := fun (bytes : Array Nat) => if i < step then 0 else bytes[i - step]?.getD 0
    let more ← predicted? kind (before done) (above[i]?.getD 0) (before above)
    return done.push ((byte + more) % 256)) #[]

/-- Rows that start with their kind; the last one is filled up with zeros. -/
def undoRows (layout : Layout) : Nat → Array Nat → List Nat → Except Flaw (List Nat)
  | 0, _, _ => return []
  | _ + 1, _, [] => return []
  | fuel + 1, above, kind :: rest => do
    let row := rest.take layout.width
    let row := row ++ List.replicate (layout.width - row.length) 0
    match undoRow? layout.step kind above row with
    | some done => return done.toList ++ (← undoRows layout fuel done (rest.drop layout.width))
    | none => throw (.malformed ("Unsupported PNG filter " ++ Decimal.natText kind))

/-- Samples of which each is told by its difference from the one to its left. -/
def undoDifferences (layout : Layout) (bytes : List Nat) : List Nat :=
  (bytes.foldl (fun (done : Array Nat) byte =>
    let i := done.size
    let left := if i % layout.width < layout.step then 0 else done[i - layout.step]?.getD 0
    done.push ((byte + left) % 256)) #[]).toList

def undoPrediction (resolve : Resolver) (parameters : Entries) (bytes : List Nat) :
    Except Flaw (List Nat) := do
  match ← wholeUnder resolve "Predictor" 1 parameters with
  | 1 => return bytes
  | predictor =>
    let layout ← layoutOf resolve parameters
    if predictor = 2 then return undoDifferences layout bytes
    else if 10 ≤ predictor && predictor ≤ 15 then undoRows layout bytes.length #[] bytes
    else throw (.malformed ("Unsupported flatedecode predictor " ++ Decimal.intText predictor))

def charsOf (bytes : List Nat) : List Char := bytes.map Char.ofNat

def undoFlate (resolve : Resolver) (parameters : Entries) (data : List Char) :
    Except Flaw (List Char) := do
  let bytes := Compression.expand (data.map fun c => UInt8.ofNat c.toNat)
  return charsOf (← undoPrediction resolve parameters (bytes.map UInt8.toNat))

/-- Bytes given by two hexadecimal digits each, up to an end mark. -/
def undoHex (data : List Char) : Except Flaw (List Char) :=
  go ((data.takeWhile (· != '>')).filter (!Reading.isGap ·))
where
  go : List Char → Except Flaw (List Char)
    | [] => return []
    | [a] => return [← byte [a, '0']]
    | a :: b :: rest => return (← byte [a, b]) :: (← go rest)
  byte (digits : List Char) : Except Flaw Char :=
    match pairByte? digits with
    | some c => .ok c
    | none =>
      .error (.badValue ("invalid literal for int() with base 16: " ++ quotedBytes digits))

/-- Runs of bytes: some that differ, or one that is repeated. -/
def undoRuns : Nat → List Char → Except Flaw (List Char)
  | 0, _ => return []
  | _ + 1, [] => return []
  | fuel + 1, mark :: rest => do
    let n := mark.toNat
    if n = 128 then return []
    else if n < 128 then return rest.take (n + 1) ++ (← undoRuns fuel (rest.drop (n + 1)))
    else
      match rest with
      | c :: rest => return List.replicate (257 - n) c ++ (← undoRuns fuel rest)
      | [] => throw (.misuse .badValue)

/-- The bytes of up to five digits of base 85: one fewer than there are digits. -/
def groupBytes? (digits : List Nat) : Option (List Char) :=
  let n := (digits ++ List.replicate (5 - digits.length) 84).foldl (fun n d => 85 * n + d) 0
  if 0x100000000 ≤ n then none
  else
    some ((charsOf [n / 0x1000000, n / 0x10000 % 256, n / 256 % 256, n % 256]).take
      (digits.length - 1))

/-- Four bytes by five digits of base 85 each. -/
def undoBase85 (data : List Char) : Except Flaw (List Char) :=
  let body := data.filter (!Reading.isSpace ·)
  let body := if ['<', '~'].isPrefixOf body then body.drop 2 else body
  go [] (if ['~', '>'].isSuffixOf body then body.take (body.length - 2) else body)
where
  go (digits : List Nat) : List Char → Except Flaw (List Char)
    | [] => if digits.isEmpty then .ok [] else group digits
    | c :: rest =>
      if '!' ≤ c && c ≤ 'u' then
        let digits := digits ++ [c.toNat - '!'.toNat]
        if digits.length = 5 then do return (← group digits) ++ (← go [] rest)
        else go digits rest
      else if c = 'z' && digits.isEmpty then do
        return List.replicate 4 '\x00' ++ (← go [] rest)
      else .error (.badValue "Non-Ascii85 digit found")
  group (digits : List Nat) : Except Flaw (List Char) :=
    match groupBytes? digits with
    | some bytes => .ok bytes
    | none => .error (.badValue "Ascii85 overflow")

/-- Undoes the filter of a name. -/
def undoFilter (resolve : Resolver) (filter : Value) (parameters : Entries) (data : List Char) :
    Except Flaw (List Char) :=
  let isOne := fun (names : List String) => names.any fun name => filter.isWord name
  if isOne ["FlateDecode", "Fl"] then undoFlate resolve parameters data
  else if isOne ["ASCIIHexDecode", "AHx"] then undoHex data
  else if isOne ["ASCII85Decode", "A85"] then undoBase85 data
  else if isOne ["RunLengthDecode", "RL"] then undoRuns data.length data
  else .error (.misuse .unsupported)

/-- A value that may be a list stands for its only item where it is none. -/
def asList : Value → List Value
  | .list items => items
  | value => [value]

/-- The entries of parameters; whatever else they are, they say nothing. -/
def parametersOf (resolve : Resolver) (value : Value) : Except Flaw Entries := do
  return ((← resolve value).bind Value.entries?).getD []

/-- The data of a stream with its filters undone one after another. Where there are no data there is
nothing to undo. -/
def filtered (resolve : Resolver) (entries : Entries) (data : List Char) :
    Except Flaw (List Char) := do
  let filters ← match Value.under? "Filter" entries with
    | none => pure []
    | some value => pure (asList ((← resolve value).getD .null))
  let given ← match Value.under? "DecodeParms" entries with
    | none => pure (filters.map fun _ => [])
    | some value => (asList value).mapM (parametersOf resolve)
  if data.isEmpty then return data
  (filters.zip given).foldlM (fun data (filter, parameters) =>
    undoFilter resolve filter parameters data) data

end Vitae.Pdf
