/-!
UTF-8. Writing, strict reading, and reading that puts U+FFFD for every maximal piece of
ill-formed input. Both readers are one pass over the bytes with the unfinished character as state.
-/

namespace Vitae.Text.Utf8

abbrev Bytes := List UInt8

def encodeChar (c : Char) : Bytes :=
  let n := c.toNat
  if n < 0x80 then [UInt8.ofNat n]
  else if n < 0x800 then [UInt8.ofNat (0xc0 + n / 64), UInt8.ofNat (0x80 + n % 64)]
  else if n < 0x10000 then
    [UInt8.ofNat (0xe0 + n / 4096), UInt8.ofNat (0x80 + n / 64 % 64), UInt8.ofNat (0x80 + n % 64)]
  else
    [UInt8.ofNat (0xf0 + n / 262144), UInt8.ofNat (0x80 + n / 4096 % 64),
      UInt8.ofNat (0x80 + n / 64 % 64), UInt8.ofNat (0x80 + n % 64)]

def encodeChars (cs : List Char) : Bytes := cs.flatMap encodeChar

def encode (s : String) : Bytes := encodeChars s.toList

/-- A character of which some bytes are still owed. The next byte lies between `low` and `high`. -/
structure Pending where
  owed : Nat
  low : Nat
  high : Nat
  value : Nat
  deriving DecidableEq, Repr

inductive Opening where
  | char (c : Char)
  | pending (p : Pending)
  | broken
  deriving DecidableEq, Repr

/-- What the first byte of a character says. Overlong forms, surrogates and numbers above U+10FFFF
are ruled out by the range of the second byte. -/
def opening (byte : UInt8) : Opening :=
  let b := byte.toNat
  if b < 0x80 then .char (Char.ofNat b)
  else if b < 0xc2 then .broken
  else if b < 0xe0 then .pending ⟨1, 0x80, 0xbf, b % 32⟩
  else if b = 0xe0 then .pending ⟨2, 0xa0, 0xbf, b % 16⟩
  else if b = 0xed then .pending ⟨2, 0x80, 0x9f, b % 16⟩
  else if b < 0xf0 then .pending ⟨2, 0x80, 0xbf, b % 16⟩
  else if b = 0xf0 then .pending ⟨3, 0x90, 0xbf, b % 8⟩
  else if b < 0xf4 then .pending ⟨3, 0x80, 0xbf, b % 8⟩
  else if b = 0xf4 then .pending ⟨3, 0x80, 0x8f, b % 8⟩
  else .broken

def Pending.accepts (p : Pending) (byte : UInt8) : Bool :=
  p.low ≤ byte.toNat && byte.toNat ≤ p.high

/-- The character once its last byte has come, or what is owed after this byte. -/
def Pending.next (p : Pending) (byte : UInt8) : Opening :=
  let value := p.value * 64 + byte.toNat % 64
  if p.owed ≤ 1 then .char (Char.ofNat value) else .pending ⟨p.owed - 1, 0x80, 0xbf, value⟩

def decodeFrom : Option Pending → Bytes → Option (List Char)
  | none, [] => some []
  | some _, [] => none
  | state, b :: rest =>
    let step := match state with
      | none => opening b
      | some p => if p.accepts b then p.next b else .broken
    match step with
    | .char c => (decodeFrom none rest).map (c :: ·)
    | .pending p => decodeFrom (some p) rest
    | .broken => none

/-- The text of well-formed bytes. -/
def decode? (bytes : Bytes) : Option String := (decodeFrom none bytes).map String.ofList

def replacement : Char := Char.ofNat 0xfffd

def decodeLossyFrom : Option Pending → Bytes → List Char
  | none, [] => []
  | some _, [] => [replacement]
  | state, b :: rest =>
    let (lost, step) := match state with
      | none => ([], opening b)
      | some p => if p.accepts b then ([], p.next b) else ([replacement], opening b)
    lost ++ match step with
      | .char c => c :: decodeLossyFrom none rest
      | .pending p => decodeLossyFrom (some p) rest
      | .broken => replacement :: decodeLossyFrom none rest

def decodeLossy (bytes : Bytes) : String := String.ofList (decodeLossyFrom none bytes)

/-- Line ends of all three conventions become a single line feed. -/
def unifyLineEnds : List Char → List Char
  | [] => []
  | '\r' :: '\n' :: rest => '\n' :: unifyLineEnds rest
  | c :: rest => (if c = '\r' then '\n' else c) :: unifyLineEnds rest

end Vitae.Text.Utf8
