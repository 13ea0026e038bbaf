import Vitae.Text.Utf8
import Vitae.Text.Digit

/-!
Percent encoding: every byte of the UTF-8 form that is not an unreserved character is written as its
number. Decoding undoes it.
-/

namespace Vitae.Text.Percent

/-- Letters and digits of ASCII, and the marks `_`, `.`, `-`, `~`. -/
def isUnreserved (n : Nat) : Bool :=
  (48 ≤ n && n ≤ 57) || (65 ≤ n && n ≤ 90) || (97 ≤ n && n ≤ 122)
    || n == 95 || n == 46 || n == 45 || n == 126

def encodeByte (byte : UInt8) : List Char :=
  let n := byte.toNat
  if isUnreserved n then [Char.ofNat n]
  else ['%', upperHexDigit (n / 16), upperHexDigit (n % 16)]

def encodeChars (cs : List Char) : List Char := (Utf8.encodeChars cs).flatMap encodeByte

/-- The bytes that a percent-encoded text stands for. -/
def decodeBytes? : List Char → Option Utf8.Bytes
  | [] => some []
  | '%' :: high :: low :: rest => do
    let n := 16 * (← hexDigit? high) + (← hexDigit? low)
    return UInt8.ofNat n :: (← decodeBytes? rest)
  | c :: rest =>
    if isUnreserved c.toNat then do return UInt8.ofNat c.toNat :: (← decodeBytes? rest) else none

def decodeChars? (cs : List Char) : Option (List Char) := do
  Utf8.decodeFrom none (← decodeBytes? cs)

end Vitae.Text.Percent
