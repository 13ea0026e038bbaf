import Vitae.Pdf.Cursor
import Vitae.Text.Utf8
import Vitae.Text.Whole

/-!
Reading values. A dictionary in which something cannot be read ends there and keeps what it has by
then; everything else fails as a whole.
-/

namespace Vitae.Pdf

open Decimal (Binary64 Number)
open Reading

def isDigit (c : Char) : Bool := (Text.asciiDigit? c).isSome

def digitsValue (cs : List Char) : Nat :=
  cs.foldl (fun n c => 10 * n + (Text.asciiDigit? c).getD 0) 0

/-- A whole number in plain digits, perhaps with a sign or underscores. -/
def wholeOf? (cs : List Char) : Option Int :=
  if cs.all fun c => c.toNat < 28 || (31 < c.toNat && c.toNat < 128) then
    Text.whole? (String.ofList cs)
  else none

/-- A decimal with its sign and, if it has them, its fraction and its exponent. -/
def decimal? (cs : List Char) : Option Binary64 :=
  let (negative, cs) := unsigned cs
  let mantissa := cs.takeWhile fun c => c != 'e' && c != 'E'
  let whole := mantissa.takeWhile (· != '.')
  let places := (mantissa.drop whole.length).drop 1
  let digits := whole ++ places
  if digits.isEmpty || !digits.all isDigit then none
  else do
    let exponent ← match cs.drop mantissa.length with
      | [] => some 0
      | _ :: exponent => exponentOf? exponent
    return Binary64.ofDecimal negative (digitsValue digits) (exponent - places.length)
where
  unsigned : List Char → Bool × List Char
    | '-' :: rest => (true, rest)
    | '+' :: rest => (false, rest)
    | cs => (false, cs)
  exponentOf? (cs : List Char) : Option Int :=
    let (negative, digits) := unsigned cs
    if digits.isEmpty || !digits.all isDigit then none
    else some (if negative then -(digitsValue digits : Int) else digitsValue digits)

/-- A number as it is written in a file. What is no number counts as zero. -/
def numberOf (cs : List Char) : Number :=
  if cs.contains '.' then .binary ((decimal? cs).getD Binary64.zero)
  else .whole ((wholeOf? cs).getD 0)

/-- Where a text first holds another one. -/
def find? (part : List Char) : List Char → Option Nat
  | [] => if part.isEmpty then some 0 else none
  | c :: rest =>
    if part.isPrefixOf (c :: rest) then some 0 else (find? part rest).map (· + 1)

/-- Digits, at least one, and what follows them. -/
def splitDigits? (cs : List Char) : Option (List Char × List Char) :=
  let digits := cs.takeWhile isDigit
  if digits.isEmpty then none else some (digits, cs.drop digits.length)

/-- White space, at least one character of it, and what follows it. -/
def afterGap? : List Char → Option (List Char)
  | c :: rest => if isGap c then some (rest.dropWhile isGap) else none
  | [] => none

/-- Whether a text starts with a reference. -/
def startsReference (cs : List Char) : Bool :=
  let unsigned := match cs with
    | '+' :: rest => rest
    | '-' :: rest => rest
    | _ => cs
  (do
    let (_, rest) ← splitDigits? unsigned
    let (_, rest) ← splitDigits? (← afterGap? rest)
    match ← afterGap? rest with
    | 'R' :: c :: _ => if c.isAlpha then none else some ()
    | _ => none).isSome

def hexByte? (a b : Char) : Option Char := do
  return Char.ofNat (16 * (← Text.hexDigit? a) + (← Text.hexDigit? b))

/-- A name with the characters that are given by their numbers. Behind a number that is none every
character is taken for the start of one; the last one of these is lost. -/
def unescapeName (expected : Bool) : List Char → List Char
  | [] => []
  | c :: rest =>
    if expected || c = '#' then
      match rest with
      | a :: b :: more =>
        match hexByte? a b with
        | some byte => byte :: unescapeName false more
        | none => c :: unescapeName true (a :: b :: more)
      | [_] => [c]
      | [] => []
    else c :: unescapeName false rest

def bytesText (cs : List Char) : String :=
  (Text.Utf8.decode? (cs.map fun c => UInt8.ofNat c.toNat)).getD (String.ofList cs)

def endsName (c : Char) : Bool := isGap c || "()<>[]\x7b\x7d/%".toList.contains c

def readName : Reading Value := do
  let _ ← next
  return .name (bytesText (unescapeName false (← takeUntil endsName)))

def readBool : Reading Value := do
  match String.ofList (← take 4) with
  | "true" => return .bool true
  | "fals" =>
    let _ ← next
    return .bool false
  | _ => throw (.malformed "Could not read Boolean object")

def readNull : Reading Value := do
  if String.ofList (← take 4) = "null" then return .null
  else throw (.malformed "Could not read Null object")

def isNumeric (c : Char) : Bool := isDigit c || "+,-.".toList.contains c

def readNumber : Reading Value := return .number (numberOf (← takeUntil (!isNumeric ·)))

def readReference : Reading Value := do
  let id ← word
  let _ ← takeUntil (!isGap ·)
  let generation ← word
  if (← nextSolid) ≠ some 'R' then throw (.malformed "Error reading indirect object reference")
  return .reference ⟨(wholeOf? id).getD 0, (wholeOf? generation).getD 0⟩

/-- The character that a letter behind a backslash stands for. -/
def escaped? : Char → Option Char
  | 'n' => some '\n'
  | 'r' => some '\r'
  | 't' => some '\t'
  | 'b' => some '\x08'
  | 'f' => some '\x0c'
  | c => if "()/\\ %<>[]#_&$".toList.contains c then some c else none

def isOctal (c : Char) : Bool := '0' ≤ c && c ≤ '7'

/-- What is behind a backslash: a letter, up to three octal digits or the end of a line, which is
passed over. Before anything else the backslash stands for itself. -/
def readEscape : Reading (List Char) := do
  let start ← position
  match ← next with
  | none => return []
  | some c =>
    if let some meant := escaped? c then return [meant]
    else if isOctal c then
      let more ← (·.takeWhile isOctal) <$> take 2
      goTo (start + 1 + more.length)
      let n := (c :: more).foldl (fun n d => 8 * n + (Text.asciiDigit? d).getD 0) 0
      if n ≤ 255 then return [Char.ofNat n]
      else
        goTo start
        return ['\\']
    else if isLineEnd c then
      let second ← next
      if !second.any isLineEnd then back 1
      return []
    else return ['\\', c]

/-- The characters of a text up to the parenthesis that closes it. -/
def readText : Nat → Nat → Reading (List Char)
  | 0, _ => throw Flaw.ended
  | fuel + 1, depth => do
    match ← next with
    | none => throw Flaw.ended
    | some '\\' =>
      let meant ← readEscape
      return meant ++ (← readText fuel depth)
    | some '(' => return '(' :: (← readText fuel (depth + 1))
    | some ')' => if depth = 0 then return [] else return ')' :: (← readText fuel (depth - 1))
    | some c => return c :: (← readText fuel depth)

/-- The byte of one or two hexadecimal digits, of which the first may be a sign. -/
def pairByte? : List Char → Option Char
  | ['+', d] => (Text.hexDigit? d).map Char.ofNat
  | ['-', '0'] => some '\x00'
  | [a, b] => hexByte? a b
  | _ => none

/-- The bytes of a text that is given by their digits. -/
def readHex : Nat → Reading (List Char)
  | 0 => throw Flaw.ended
  | fuel + 1 => do
    match ← nextSolid with
    | none => throw Flaw.ended
    | some '>' => return []
    | some a =>
      match ← nextSolid with
      | none => throw Flaw.ended
      | some '>' => return [← byte [a, '0']]
      | some b =>
        let c ← byte [a, b]
        return c :: (← readHex fuel)
where
  byte (digits : List Char) : Reading Char :=
    match pairByte? digits with
    | some c => pure c
    | none =>
      throw (.badValue ("invalid literal for int() with base 16: " ++ quotedBytes digits))

/-- Puts a value under a key, unless there is a value already that is more than nothing. -/
def define (key : String) (value : Value) : Entries → Entries
  | [] => [(key, value)]
  | (other, held) :: rest =>
    if other = key then (key, if held.isFull then held else value) :: rest
    else (other, held) :: define key value rest

def attempt {α : Type} (reading : Reading α) : Reading (Except Flaw α) :=
  tryCatch (.ok <$> reading) fun flaw => pure (.error flaw)

def endMark : List Char := "endstream".toList

/-- The characters up to an end mark, or to the end. -/
def takeToEndMark : Reading (List Char) := do
  let start ← position
  let rest ← take (← read).text.size
  match find? endMark rest with
  | some n =>
    goTo (start + n)
    return rest.take n
  | none => return rest

/-- The length that a stream tells of itself; none if it does not tell it. -/
def lengthOf (entries : Entries) : Reading (Option Nat) := do
  let told ← match Value.under? "Length" entries with
    | some (.reference r) => ofExcept ((← read).lookUp r)
    | told => pure told
  match told with
  | none => return none
  | some (.number (.whole n)) => return if 0 ≤ n then some n.toNat else none
  | some (.number (.binary x)) =>
    if x < Binary64.zero then return none else throw (.misuse .wrongType)
  | some _ => throw (.misuse .wrongType)

/-- The data of a stream whose length is not told rightly: up to an end mark before the next
object. -/
def readUnmeasured : Reading (List Char) := do
  let start ← position
  let later := (← read).places.filter ((start : Int) < ·)
  let rest ← match later.min? with
    | some place => take (place.toNat - 1 - start)
    | none => take (← read).text.size
  match find? endMark rest with
  | some n =>
    goTo (start + n + endMark.length)
    return if n = 0 then rest.dropLast else rest.take (n - 1)
  | none =>
    throw (.malformed ("Unable to find 'endstream' marker for obj starting at "
      ++ Decimal.natText start ++ "."))

/-- The data of a stream, from the end of its opening word on. -/
def readData (entries : Entries) : Reading (List Char) := do
  let _ ← takeUntil (· != ' ')
  match ← next with
  | some '\n' => pure ()
  | some '\r' => if (← next) ≠ some '\n' then back 1
  | _ => throw (.truncated "Stream data must be followed by a newline")
  let length ← lengthOf entries
  let start ← position
  let data ← match length with
    | some n => take n
    | none => takeToEndMark
  let c ← nextSolid
  let rest ← take 8
  if c.toList ++ rest = endMark then return data
  else
    back 10
    if (← take 9) = endMark then return data.dropLast
    else
      goTo start
      readUnmeasured

/-- A dictionary, together with its stream if one follows. -/
def withStream (entries : Entries) : Reading Value := do
  let start ← position
  let opens ← if (← nextSolid) = some 's' then (· == "tream".toList) <$> take 5 else pure false
  if opens then
    let data ← readData entries
    return .stream (entries.filter (·.1 != "Length")) data
  else
    goTo start
    return .dictionary entries

def tooDeep : Flaw := .malformed "Maximum recursion depth exceeded"

mutual

/-- Reads a value; the first argument bounds how many values are read. -/
def readValue : Nat → Reading Value
  | 0 => throw tooDeep
  | fuel + 1 => do
    let first ← next
    back 1
    match first with
    | some '/' => readName
    | some '<' =>
      let two ← take 2
      back 2
      if two = ['<', '<'] then readDictionary fuel
      else
        let _ ← next
        return .text (← readHex (← read).text.size)
    | some '[' =>
      let _ ← next
      return .list (← readItems fuel)
    | some 't' => readBool
    | some 'f' => readBool
    | some '(' =>
      let _ ← next
      return .text (← readText (← read).text.size 0)
    | some 'n' => readNull
    | some '%' =>
      skipComment
      skipSpace
      readValue fuel
    | none => readNumeric
    | some c =>
      if isDigit c || "+-.".toList.contains c then readNumeric
      else if c = 'e' then
        if String.ofList (← take 6) = "endobj" then return .null else unknown c
      else unknown c
where
  readNumeric : Reading Value := do
    let ahead ← take 20
    back ahead.length
    if startsReference ahead then readReference else readNumber
  unknown (c : Char) : Reading Value := do
    let here ← position
    back 20
    let around ← take 80
    goTo here
    let _ ← word
    throw (.malformed ("Invalid Elementary Object starting with " ++ quotedBytes [c] ++ " @"
      ++ Decimal.natText here ++ ": " ++ quotedBytes around))

def readItems : Nat → Reading (List Value)
  | 0 => throw tooDeep
  | fuel + 1 => do
    let _ ← takeUntil (!isGap ·)
    match ← next with
    | none => return []
    | some ']' => return []
    | some c =>
      back 1
      if c = '%' then
        skipComment
        readItems fuel
      else
        let item ← readValue fuel
        return item :: (← readItems fuel)

def readDictionary : Nat → Reading Value
  | 0 => throw tooDeep
  | fuel + 1 => do
    let _ ← take 2
    let (entries, complete) ← readEntries fuel []
    if complete then withStream entries else return .dictionary entries

/-- The entries of a dictionary in front of its end, and whether they could all be read. -/
def readEntries : Nat → Entries → Reading (Entries × Bool)
  | 0, _ => throw tooDeep
  | fuel + 1, entries => do
    match ← nextSolid with
    | none => throw Flaw.ended
    | some '%' =>
      back 1
      skipComment
      readEntries fuel entries
    | some '>' =>
      let _ ← next
      return (entries, true)
    | some _ =>
      back 1
      match ← attempt (readValue fuel) with
      | .ok .null => return (entries, true)
      | .ok (.name key) =>
        skipSpace
        match ← attempt (readValue fuel) with
        | .ok value => readEntries fuel (define key value entries)
        | .error _ => return (entries, false)
      | .ok _ => readEntries fuel entries
      | .error (.malformed _) => readEntries fuel entries
      | .error (.truncated _) => readEntries fuel entries
      | .error _ => return (entries, false)

end

/-- The value at the position. -/
def value : Reading Value := do readValue ((← read).text.size + 1)

/-- The head of an object: its number, its generation and a word. -/
def readHead : Reading Ref := do
  skipComment
  skipSpace
  let id ← word
  skipSpace
  let generation ← word
  skipSpace
  let _ ← take 3
  skipSpace
  match wholeOf? id, wholeOf? generation with
  | some id, some generation => return ⟨id, generation⟩
  | _, _ => throw (.badValue "An object has no number")

end Vitae.Pdf
