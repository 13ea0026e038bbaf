import Vitae.Markup.Entity

/-!
Character references, by name or by number. In text a reference ends where its name or number ends;
in attribute values an unknown name may still begin with an old one.
-/

namespace Vitae.Reference

/-- The names that escaping needs. -/
def basic? (name : List Char) : Option Char :=
  if name = ['a', 'm', 'p'] then some '&'
  else if name = ['l', 't'] then some '<'
  else if name = ['g', 't'] then some '>'
  else if name = ['q', 'u', 'o', 't'] then some '"'
  else none

/-- The characters of a name. -/
def named? (name : List Char) : Option (List Char) :=
  match basic? name with
  | some c => some [c]
  | none => (NamedReference.find? name).map NamedReference.chars

/-- The characters of a name that needs no semicolon. -/
def oldNamed? (name : List Char) : Option (List Char) :=
  match basic? name with
  | some c => some [c]
  | none =>
    match NamedReference.find? name with
    | some r => if r.isOld then some r.chars else none
    | none => none

def replacement : Char := Char.ofNat 0xfffd

/-- What the numbers from 0x80 to 0x9f stand for in Windows-1252. -/
def windowsCodes : List Nat := [
  0x20ac, 0x81, 0x201a, 0x192, 0x201e, 0x2026, 0x2020, 0x2021, 0x2c6, 0x2030, 0x160, 0x2039, 0x152,
  0x8d, 0x17d, 0x8f, 0x90, 0x2018, 0x2019, 0x201c, 0x201d, 0x2022, 0x2013, 0x2014, 0x2dc, 0x2122,
  0x161, 0x203a, 0x153, 0x9d, 0x17e, 0x178]

def isScalar (n : Nat) : Bool := n < 0xd800 || (0xdfff < n && n ≤ 0x10ffff)

/-- The character of a number in text. -/
def numbered (n : Nat) : Char :=
  if n = 0 then replacement
  else if 0x80 ≤ n && n ≤ 0x9f then Char.ofNat ((windowsCodes[n - 0x80]?).getD n)
  else if isScalar n then Char.ofNat n
  else replacement

/-- Numbers that stand for nothing in an attribute value. -/
def isNoCharacter (n : Nat) : Bool :=
  (1 ≤ n && n ≤ 8) || n = 0xb || (0xe ≤ n && n ≤ 0x1f) || n = 0x7f || (0xfdd0 ≤ n && n ≤ 0xfdef)
    || 0xfffe ≤ n % 0x10000

/-- The characters of a number in an attribute value. -/
def numberedInValue (n : Nat) : List Char :=
  if n = 0 then [replacement]
  else if isScalar n && isNoCharacter n then []
  else [numbered n]

def decimalValue? (digits : List Char) : Option Nat :=
  if digits.isEmpty then none
  else digits.foldlM (fun n c => (Text.asciiDigit? c).map (10 * n + ·)) 0

def hexValue? (digits : List Char) : Option Nat :=
  if digits.isEmpty then none
  else digits.foldlM (fun n c => (Text.hexDigit? c).map (16 * n + ·)) 0

/-- The number that is written behind `&#`. -/
def number? : List Char → Option Nat
  | 'x' :: digits => hexValue? digits
  | 'X' :: digits => hexValue? digits
  | digits => decimalValue? digits

/-- A reference read in front of a rest: its characters and how many have been passed. -/
structure Reading where
  chars : List Char
  length : Nat
  deriving DecidableEq, Repr

/-- One more if a semicolon follows. -/
def withSemicolon (length : Nat) (rest : List Char) : Nat :=
  if rest.head? = some ';' then length + 1 else length

def readNumberInValue (mark : List Char) (isDigit : Char → Bool) (cs : List Char) :
    Option Reading := do
  let digits := cs.takeWhile isDigit
  let n ← number? (mark ++ digits)
  let length := mark.length + digits.length
  return ⟨numberedInValue n, withSemicolon (length + 1) (cs.drop digits.length)⟩

def isHexDigit (c : Char) : Bool := (Text.hexDigit? c).isSome

def isDecimalDigit (c : Char) : Bool := (Text.asciiDigit? c).isSome

def endsName (c : Char) : Bool :=
  c == '\t' || c == '\n' || c == '\x0c' || c == ' ' || c == '<' || c == '&' || c == '#' || c == ';'

/-- The longest old name of at least two characters that a text begins with. -/
def readOldName (cs : List Char) : Nat → Option Reading
  | 0 => none
  | 1 => none
  | n + 2 =>
    match oldNamed? (cs.take (n + 2)) with
    | some chars => some ⟨chars, n + 2⟩
    | none => readOldName cs (n + 1)

def readNameInValue (cs : List Char) : Option Reading :=
  let name := (cs.take 32).takeWhile fun c => !endsName c
  let closed := (cs.drop name.length).head? = some ';'
  if name.isEmpty then none
  else if closed then
    match named? name with
    | some chars => some ⟨chars, name.length + 1⟩
    | none => readOldName cs name.length
  else readOldName cs name.length

/-- Reads what follows an ampersand in an attribute value. -/
def readInValue : List Char → Option Reading
  | '#' :: 'x' :: rest => (readNumberInValue ['x'] isHexDigit rest)
  | '#' :: 'X' :: rest => (readNumberInValue ['X'] isHexDigit rest)
  | '#' :: rest => (readNumberInValue [] isDecimalDigit rest)
  | cs => readNameInValue cs

/-- An attribute value with its references resolved; the number counts the characters of a reference
that are still to be passed over. -/
def resolveFrom : Nat → List Char → List Char
  | _, [] => []
  | n + 1, _ :: rest => resolveFrom n rest
  | 0, c :: rest =>
    if c = '&' then
      match readInValue rest with
      | some r => r.chars ++ resolveFrom r.length rest
      | none => c :: resolveFrom 0 rest
    else c :: resolveFrom 0 rest

def resolveValue (cs : List Char) : List Char := resolveFrom 0 cs

end Vitae.Reference
