import Vitae.Text.Printable
import Vitae.Text.Digit

/-!
What the bytes of a text in a PDF file say. Bytes are characters below 256. A byte order mark
announces UTF-16; without it every byte stands for one character, and a few stand for none.
-/

namespace Vitae.Pdf

/-- The characters of the bytes from 0x18 to 0x1f. -/
def accentCodes : List Nat := [0x2d8, 0x2c7, 0x2c6, 0x2d9, 0x2dd, 0x2db, 0x2da, 0x2dc]

/-- The characters of the bytes from 0x80 to 0x9e. -/
def signCodes : List Nat := [
  0x2022, 0x2020, 0x2021, 0x2026, 0x2014, 0x2013, 0x192, 0x2044, 0x2039, 0x203a, 0x2212, 0x2030,
  0x201e, 0x201c, 0x201d, 0x2018, 0x2019, 0x201a, 0x2122, 0xfb01, 0xfb02, 0x141, 0x152, 0x160,
  0x178, 0x17d, 0x131, 0x142, 0x153, 0x161, 0x17e]

/-- The character of a byte, if it stands for one. -/
def byteChar? (byte : Char) : Option Char :=
  let n := byte.toNat
  if n = 0x7f || n = 0x9f || n = 0xad then none
  else if n = 0xa0 then some (Char.ofNat 0x20ac)
  else if 0x18 ≤ n && n < 0x20 then (accentCodes[n - 0x18]?).map Char.ofNat
  else if 0x80 ≤ n && n < 0x9f then (signCodes[n - 0x80]?).map Char.ofNat
  else some byte

/-- Units of sixteen bits, two bytes each. -/
def pairUnits? (bigEndian : Bool) : List Char → Option (List Nat)
  | [] => some []
  | [_] => none
  | a :: b :: rest => do
    let unit := if bigEndian then 256 * a.toNat + b.toNat else a.toNat + 256 * b.toNat
    return unit :: (← pairUnits? bigEndian rest)

/-- The characters of UTF-16 units. A high surrogate has to be followed by a low one. -/
def unitChars? : List Nat → Option (List Char)
  | [] => some []
  | high :: low :: rest =>
    if 0xd800 ≤ high && high < 0xdc00 then
      if 0xdc00 ≤ low && low < 0xe000 then do
        let c := Char.ofNat (0x10000 + (high - 0xd800) * 1024 + (low - 0xdc00))
        return c :: (← unitChars? rest)
      else none
    else if 0xdc00 ≤ high && high < 0xe000 then none
    else do return Char.ofNat high :: (← unitChars? (low :: rest))
  | [unit] => if 0xd800 ≤ unit && unit < 0xe000 then none else some [Char.ofNat unit]

/-- The text of some bytes, unless there are bytes among them that say nothing. -/
def decodeText? (bytes : List Char) : Option String :=
  let chars := match bytes with
    | '\u00fe' :: '\u00ff' :: rest => (pairUnits? true rest).bind unitChars?
    | '\u00ff' :: '\u00fe' :: rest => (pairUnits? false rest).bind unitChars?
    | bytes => bytes.mapM byteChar?
  chars.map String.ofList

/-- The text of some bytes; where they say nothing, each stands for the character of its number. -/
def decodeText (bytes : List Char) : String := (decodeText? bytes).getD (String.ofList bytes)

def escapeByte (quote c : Char) : List Char :=
  if c == quote || c == '\\' then ['\\', c]
  else if c == '\t' then ['\\', 't']
  else if c == '\n' then ['\\', 'n']
  else if c == '\r' then ['\\', 'r']
  else if 0x20 ≤ c.toNat && c.toNat < 0x7f then [c]
  else '\\' :: 'x' :: Text.hexDigits 2 c.toNat

/-- Bytes as messages show them. -/
def quotedBytes (bytes : List Char) : String :=
  let quote := if bytes.contains '\'' && !bytes.contains '"' then '"' else '\''
  String.ofList ('b' :: quote :: bytes.flatMap (escapeByte quote) ++ [quote])

end Vitae.Pdf
