import Vitae.Json.Basic
import Vitae.Text.Digit
import Vitae.Text.Points
import Vitae.Decimal.Shortest

/-!
Reading JSON text. A fault carries the position at which the text stops being JSON. Beyond the
standard, `NaN`, `Infinity` and `-Infinity` are numbers. The reader has limits: it refuses whole
numbers of many digits, values that are nested deeply, and strings in which half of a surrogate pair
stands alone, although they are JSON.
-/

namespace Vitae.Json

open Decimal (Binary64 natText)
open Text (CodePoint Points)

inductive Problem where
  | byteOrderMark
  | value
  | propertyName
  | colon
  | comma
  | controlCharacter
  | escape
  | unicodeEscape
  | unterminated
  | extraData
  | digitLimit
  | nestingLimit
  | loneSurrogate
  deriving DecidableEq, Repr

structure ReadFault where
  problem : Problem
  position : Nat
  deriving DecidableEq, Repr

def Problem.message : Problem → String
  | .byteOrderMark => "Unexpected UTF-8 BOM (decode using utf-8-sig)"
  | .value => "Expecting value"
  | .propertyName => "Expecting property name enclosed in double quotes"
  | .colon => "Expecting ':' delimiter"
  | .comma => "Expecting ',' delimiter"
  | .controlCharacter => "Invalid control character at"
  | .escape => "Invalid \\escape"
  | .unicodeEscape => "Invalid \\uXXXX escape"
  | .unterminated => "Unterminated string starting at"
  | .extraData => "Extra data"
  | .digitLimit => "Too many digits in a whole number"
  | .nestingLimit => "Too many nested values"
  | .loneSurrogate => "Half of a surrogate pair in the string starting at"

/-- Line and column of a position, both counted from one. -/
def lineColumn (text : List Char) (position : Nat) : Nat × Nat :=
  let before := text.take position
  (before.count '\n' + 1, (before.reverse.takeWhile (· != '\n')).length + 1)

def ReadFault.message (text : List Char) (fault : ReadFault) : String :=
  let (line, column) := lineColumn text fault.position
  fault.problem.message ++ ": line " ++ natText line ++ " column " ++ natText column
    ++ " (char " ++ natText fault.position ++ ")"

/-- What is left of a text, and how much of it was passed. -/
structure Cursor where
  rest : List Char
  position : Nat
  deriving DecidableEq, Repr

abbrev Read (α : Type) := Except ReadFault (α × Cursor)

def faultAt {α : Type} (problem : Problem) (position : Nat) : Except ReadFault α :=
  .error ⟨problem, position⟩

def isJsonBlank (c : Char) : Bool := c == ' ' || c == '\t' || c == '\n' || c == '\r'

def Cursor.skipBlank (c : Cursor) : Cursor :=
  ⟨c.rest.dropWhile isJsonBlank, c.position + (c.rest.takeWhile isJsonBlank).length⟩

def hexValue? (cs : List Char) : Option Nat :=
  cs.foldl (fun acc c => do return (← acc) * 16 + (← Text.hexDigit? c)) (some 0)

def simpleEscape? : Char → Option Char
  | '"' => some '"'
  | '\\' => some '\\'
  | '/' => some '/'
  | 'b' => some (Char.ofNat 8)
  | 'f' => some (Char.ofNat 12)
  | 'n' => some '\n'
  | 'r' => some '\r'
  | 't' => some '\t'
  | _ => none

def isHighSurrogate (n : Nat) : Bool := 0xd800 ≤ n && n ≤ 0xdbff

def isLowSurrogate (n : Nat) : Bool := 0xdc00 ≤ n && n ≤ 0xdfff

def joinSurrogates (high low : Nat) : Char :=
  Char.ofNat (0x10000 + (high - 0xd800) * 1024 + (low - 0xdc00))

/-- The rest of a string whose opening quote stood at `start`; `acc` is read backwards. -/
def readStringFrom (start : Nat) : List Char → Nat → List CodePoint → Read Points
  | [], _, _ => faultAt .unterminated start
  | '"' :: rest, p, acc => .ok (.ofCodes acc.reverse, ⟨rest, p + 1⟩)
  | ['\\'], _, _ => faultAt .unterminated start
  | '\\' :: 'u' :: a :: b :: c :: d :: '\\' :: 'u' :: e :: f :: g :: h :: rest, p, acc =>
    match hexValue? [a, b, c, d] with
    | none => faultAt .unicodeEscape (p + 1)
    | some n =>
      if isHighSurrogate n && !rest.isEmpty then
        match hexValue? [e, f, g, h] with
        | none => faultAt .unicodeEscape (p + 7)
        | some m =>
          if isLowSurrogate m then
            readStringFrom start rest (p + 12) (.char (joinSurrogates n m) :: acc)
          else
            readStringFrom start ('\\' :: 'u' :: e :: f :: g :: h :: rest) (p + 6) (.ofNat n :: acc)
      else readStringFrom start ('\\' :: 'u' :: e :: f :: g :: h :: rest) (p + 6) (.ofNat n :: acc)
  | '\\' :: 'u' :: a :: b :: c :: d :: x :: rest, p, acc =>
    match hexValue? [a, b, c, d] with
    | none => faultAt .unicodeEscape (p + 1)
    | some n => readStringFrom start (x :: rest) (p + 6) (.ofNat n :: acc)
  | '\\' :: 'u' :: _, p, _ => faultAt .unicodeEscape (p + 1)
  | '\\' :: c :: rest, p, acc =>
    match simpleEscape? c with
    | none => faultAt .escape p
    | some e => readStringFrom start rest (p + 2) (.char e :: acc)
  | c :: rest, p, acc =>
    if c.toNat < 32 then faultAt .controlCharacter p
    else readStringFrom start rest (p + 1) (.char c :: acc)

/-- The rest of a string whose opening quote stood at `start`. It has to consist of characters. -/
def readString (start : Nat) (text : List Char) : Read String :=
  match readStringFrom start text (start + 1) [] with
  | .error e => .error e
  | .ok (.chars s, c) => .ok (s, c)
  | .ok (.halved _ _ _, _) => faultAt .loneSurrogate start

def isDigit (c : Char) : Bool := '0' ≤ c && c ≤ '9'

def digitsValue (ds : List Char) : Nat := ds.foldl (fun n d => n * 10 + (d.toNat - '0'.toNat)) 0

/-- Whole numbers of more digits are refused. -/
def digitLimit : Nat := 4300

/-- Digits after a point, if there are any. -/
def fractionOf : List Char → List Char
  | '.' :: rest => rest.takeWhile isDigit
  | _ => []

/-- Text and value of an exponent, if one is complete. -/
def exponentOf : List Char → Option (Nat × Int)
  | e :: rest =>
    if e == 'e' || e == 'E' then
      let (signLength, negative, ds) := match rest with
        | '-' :: r => (1, true, r.takeWhile isDigit)
        | '+' :: r => (1, false, r.takeWhile isDigit)
        | r => (0, false, r.takeWhile isDigit)
      if ds.isEmpty then none
      else
        let n : Int := digitsValue ds
        some (1 + signLength + ds.length, if negative then -n else n)
    else none
  | [] => none

def readNumber (c : Cursor) : Read Json :=
  let (negative, body) := match c.rest with
    | '-' :: rest => (true, rest)
    | rest => (false, rest)
  let whole := match body with
    | '0' :: _ => ['0']
    | _ => body.takeWhile isDigit
  if whole.isEmpty then faultAt .value c.position
  else
    let afterWhole := body.drop whole.length
    let fraction := fractionOf afterWhole
    let afterFraction :=
      if fraction.isEmpty then afterWhole else afterWhole.drop (fraction.length + 1)
    let power := exponentOf afterFraction
    let rest := afterFraction.drop ((power.map (·.1)).getD 0)
    let here : Cursor := ⟨rest, c.position + (c.rest.length - rest.length)⟩
    if fraction.isEmpty && power.isNone then
      if digitLimit < whole.length then faultAt .digitLimit c.position
      else
        let n : Int := digitsValue whole
        .ok (.int (if negative then -n else n), here)
    else
      let digits := digitsValue (whole ++ fraction)
      let scale := (power.map (·.2)).getD 0 - fraction.length
      .ok (.float (Binary64.ofDecimal negative digits scale), here)

def literals : List (List Char × Json) :=
  [("null".toList, .null), ("true".toList, .bool true), ("false".toList, .bool false),
    ("NaN".toList, .float .nan), ("Infinity".toList, .float (.infinite false)),
    ("-Infinity".toList, .float (.infinite true))]

def readLiteral? (c : Cursor) : Option (Json × Cursor) :=
  literals.findSome? fun (word, value) =>
    if word.isPrefixOf c.rest then
      some (value, ⟨c.rest.drop word.length, c.position + word.length⟩)
    else none

/-- Objects and lists may be nested this deeply. -/
def nestingLimit : Nat := 990

mutual

/-- Reads one value at the cursor. `fuel` bounds the work, `depth` the nesting that is left. -/
def readValue : Nat → Nat → Cursor → Read Json
  | 0, _, c => faultAt .nestingLimit c.position
  | fuel + 1, depth, c =>
    match c.rest with
    | '"' :: rest =>
      match readString c.position rest with
      | .ok (s, c) => .ok (.string s, c)
      | .error e => .error e
    | '\x7b' :: rest =>
      if depth = 0 then faultAt .nestingLimit c.position
      else
        let c := Cursor.skipBlank ⟨rest, c.position + 1⟩
        match c.rest with
        | '\x7d' :: rest => .ok (.object [], ⟨rest, c.position + 1⟩)
        | _ => readMembers fuel (depth - 1) c []
    | '[' :: rest =>
      if depth = 0 then faultAt .nestingLimit c.position
      else
        let c := Cursor.skipBlank ⟨rest, c.position + 1⟩
        match c.rest with
        | ']' :: rest => .ok (.list [], ⟨rest, c.position + 1⟩)
        | _ => readItems fuel (depth - 1) c []
    | _ =>
      match readLiteral? c with
      | some found => .ok found
      | none => readNumber c

/-- The items of a list from one item on; `acc` holds those before it, backwards. -/
def readItems : Nat → Nat → Cursor → List Json → Read Json
  | 0, _, c, _ => faultAt .nestingLimit c.position
  | fuel + 1, depth, c, acc =>
    match readValue fuel depth c with
    | .error e => .error e
    | .ok (item, c) =>
      let c := c.skipBlank
      match c.rest with
      | ']' :: rest => .ok (.list (item :: acc).reverse, ⟨rest, c.position + 1⟩)
      | ',' :: rest => readItems fuel depth (Cursor.skipBlank ⟨rest, c.position + 1⟩) (item :: acc)
      | _ => faultAt .comma c.position

/-- The members of an object from one key on; a repeated key keeps its first place. -/
def readMembers : Nat → Nat → Cursor → List (String × Json) → Read Json
  | 0, _, c, _ => faultAt .nestingLimit c.position
  | fuel + 1, depth, c, acc =>
    match c.rest with
    | '"' :: rest =>
      match readString c.position rest with
      | .error e => .error e
      | .ok (key, c) =>
        let c := c.skipBlank
        match c.rest with
        | ':' :: rest =>
          match readValue fuel depth (Cursor.skipBlank ⟨rest, c.position + 1⟩) with
          | .error e => .error e
          | .ok (value, c) =>
            let c := c.skipBlank
            let members := putMember key value acc
            match c.rest with
            | '\x7d' :: rest => .ok (.object members, ⟨rest, c.position + 1⟩)
            | ',' :: rest =>
              readMembers fuel depth (Cursor.skipBlank ⟨rest, c.position + 1⟩) members
            | _ => faultAt .comma c.position
        | _ => faultAt .colon c.position
    | _ => faultAt .propertyName c.position

end

/-- A text that is one value, with blanks around it. Every step of the reader uses up a character
after at most two calls, which is what the fuel counts. -/
def readChars (text : List Char) : Except ReadFault Json :=
  match text with
  | '\ufeff' :: _ => faultAt .byteOrderMark 0
  | _ =>
    match readValue (2 * text.length + 2) nestingLimit (Cursor.skipBlank ⟨text, 0⟩) with
    | .error e => .error e
    | .ok (value, c) =>
      let c := c.skipBlank
      if c.rest.isEmpty then .ok value else faultAt .extraData c.position

def read (text : String) : Except ReadFault Json := readChars text.toList

end Vitae.Json
