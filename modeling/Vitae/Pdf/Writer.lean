import Vitae.Pdf.Value

/-!
PDF values and objects as they are written. Everything that is written is characters, one for each
byte.
-/

namespace Vitae.Pdf

open Decimal (natText intText)

def Ref.text (r : Ref) : String := intText r.id ++ " " ++ intText r.generation

/-- A byte within parentheses. -/
def textByte (c : Char) : List Char :=
  if "()\\".toList.contains c then ['\\', c]
  else if c.toNat < 32 || 126 < c.toNat then
    let octal := Nat.toDigits 8 c.toNat
    '\\' :: List.replicate (3 - octal.length) '0' ++ octal
  else [c]

/-- A text in parentheses. -/
def textChars (bytes : List Char) : List Char := '(' :: bytes.flatMap textByte ++ [')']

/-- A byte within a name. -/
def nameByte (byte : UInt8) : List Char :=
  let c := Char.ofNat byte.toNat
  if c.isAlphanum || "+-_.".toList.contains c then [c] else '#' :: Text.hexDigits 2 byte.toNat

def nameChars (s : String) : List Char :=
  '/' :: s.toUTF8.toList.flatMap nameByte

mutual

def Value.chars : Value → List Char
  | .null => "null".toList
  | .bool b => (if b then "true" else "false").toList
  | .number n => (numberText n).toList
  | .text bytes => textChars bytes
  | .name s => nameChars s
  | .list items => '[' :: itemChars items ++ " ]".toList
  | .dictionary entries => "<<".toList ++ entryChars entries ++ " >>".toList
  | .stream entries data =>
    "<<".toList ++ entryChars entries ++ " /Length ".toList ++ (natText data.length).toList
      ++ " >>\nstream\n".toList ++ data ++ "\nendstream".toList
  | .reference r => r.text.toList ++ " R".toList

def itemChars : List Value → List Char
  | [] => []
  | item :: rest => ' ' :: item.chars ++ itemChars rest

def entryChars : Entries → List Char
  | [] => []
  | (key, value) :: rest => ' ' :: nameChars key ++ ' ' :: value.chars ++ entryChars rest

end

/-- A value and what it can be referred to by. -/
structure Object where
  ref : Ref
  value : Value

def Object.chars (o : Object) : List Char :=
  o.ref.text.toList ++ " obj\n".toList ++ o.value.chars ++ "\nendobj\n".toList

/-- Objects one after another, with the place of each. -/
def placedChars (start : Nat) : List Object → List (Ref × Nat) × List Char
  | [] => ([], [])
  | o :: rest =>
    let chars := o.chars
    let (places, more) := placedChars (start + chars.length) rest
    ((o.ref, start) :: places, chars ++ more)

def padded (width n : Nat) : String :=
  let digits := (natText n).toList
  String.ofList (List.replicate (width - digits.length) '0' ++ digits)

/-- A part of a table that has one row only. -/
def rowText (r : Ref) (place : Nat) : String :=
  intText r.id ++ " 1\n" ++ padded 10 place ++ " " ++ padded 5 r.generation.toNat ++ " n \n"

/-- A whole file: its objects, their table and its trailer. -/
def fileChars (objects : List Object) (trailer : Entries) : List Char :=
  let header := "%PDF-1.7\n".toList
  let (places, body) := placedChars header.length objects
  let table := "xref\n0 1\n0000000000 65535 f \n"
    ++ String.join (places.map fun (r, place) => rowText r place)
  header ++ body ++ table.toList ++ "trailer\n".toList ++ (Value.dictionary trailer).chars
    ++ ("\nstartxref\n" ++ natText (header.length + body.length) ++ "\n%%EOF\n").toList

end Vitae.Pdf
