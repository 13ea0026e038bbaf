import Vitae.Decimal.Fixed
import Vitae.Decimal.Number
import Vitae.Pdf.Charset
import Vitae.Pdf.Flaw

/-!
Values of PDF files. Texts, stream data and whole files are characters, one for each byte.
-/

namespace Vitae.Pdf

open Decimal (Binary64 Number)

/-- What names an object. -/
structure Ref where
  id : Int
  generation : Int
  deriving DecidableEq, Repr

inductive Value where
  | null
  | bool (b : Bool)
  | number (n : Number)
  | text (bytes : List Char)
  | name (s : String)
  | list (items : List Value)
  | dictionary (entries : List (String × Value))
  | stream (entries : List (String × Value)) (data : List Char)
  | reference (r : Ref)
  deriving Repr

abbrev Entries := List (String × Value)

/-- The digit before which a binary number is rounded when it is written: it keeps more digits the
smaller it is, and at least one after the point. -/
def writtenPlaces (x : Binary64) : Nat :=
  match x.abs.ratio? with
  | some (n, d) =>
    if d ≤ n.toNat then max 1 (8 - ((Decimal.decimalDigits (n.toNat / d)).length - 1))
    else 8 + go x.abs 0 330
  | none => 1
where
  /-- The zeros at the start of a fraction. -/
  go (x : Binary64) (zeros : Nat) : Nat → Nat
    | 0 => zeros
    | fuel + 1 =>
      let unit := Binary64.ofRatio false 1 (Nat.pow 10 (zeros + 1))
      if x.le unit then go x (zeros + 1) fuel else zeros

/-- A number as it is written: without an exponent. -/
def numberText : Number → String
  | .whole n => Decimal.intText n
  | .binary x => if x.isZero then "0.0" else Decimal.trimFraction (x.fixed (writtenPlaces x))

namespace Value

/-- The entries of a dictionary, also of one that comes with a stream. -/
def entries? : Value → Option Entries
  | dictionary entries => some entries
  | stream entries _ => some entries
  | _ => none

/-- A word by which a value says what it is: a name with its slash, or a text. -/
def word? : Value → Option String
  | name s => some ("/" ++ s)
  | text bytes => decodeText? bytes
  | _ => none

def isWord (word : String) (value : Value) : Bool := value.word? = some ("/" ++ word)

/-- Whether a value is more than nothing: zero, and what is empty, is not. -/
def isFull : Value → Bool
  | number (.whole n) => n != 0
  | number (.binary x) => !x.isZero
  | text bytes => !bytes.isEmpty
  | list items => !items.isEmpty
  | dictionary entries => !entries.isEmpty
  | stream entries _ => !entries.isEmpty
  | _ => true

/-- The first value under a key. -/
def under? (key : String) (entries : Entries) : Option Value := entries.lookup key

def textShown (bytes : List Char) : String :=
  match decodeText? bytes with
  | some s => Text.quoted s
  | none => quotedBytes bytes

mutual

/-- A value as messages show it within another value. -/
def quoted : Value → String
  | null => "NullObject"
  | bool b => if b then "True" else "False"
  | number n => numberText n
  | text bytes => textShown bytes
  | name s => Text.quoted ("/" ++ s)
  | list items => "[" ++ ", ".intercalate (quotedItems items) ++ "]"
  | dictionary entries => "\x7b" ++ ", ".intercalate (quotedEntries entries) ++ "\x7d"
  | stream entries _ => "\x7b" ++ ", ".intercalate (quotedEntries entries) ++ "\x7d"
  | reference r =>
    "IndirectObject(" ++ Decimal.intText r.id ++ ", " ++ Decimal.intText r.generation ++ ")"

def quotedItems : List Value → List String
  | [] => []
  | item :: rest => quoted item :: quotedItems rest

def quotedEntries : Entries → List String
  | [] => []
  | (key, value) :: rest =>
    (Text.quoted ("/" ++ key) ++ ": " ++ quoted value) :: quotedEntries rest

end

/-- A value as messages show it on its own. -/
def shown : Value → String
  | text bytes => (decodeText? bytes).getD (quotedBytes bytes)
  | name s => "/" ++ s
  | value => value.quoted

end Value

end Vitae.Pdf
