import Vitae.Json.Show

/-!
Writing JSON text on one line or indented, with characters outside ASCII escaped or kept.
-/

namespace Vitae.Json

open Decimal (Binary64 intText)

def unitEscape (n : Nat) : List Char := '\\' :: 'u' :: Text.hexDigits 4 n

/-- One UTF-16 unit, or two for characters beyond U+FFFF. -/
def codeEscape (n : Nat) : List Char :=
  if n < 0x10000 then unitEscape n
  else unitEscape (0xd800 + (n - 0x10000) / 1024) ++ unitEscape (0xdc00 + (n - 0x10000) % 1024)

def escapeChar (ascii : Bool) (c : Char) : List Char :=
  if c == '"' || c == '\\' then ['\\', c]
  else if c == '\n' then ['\\', 'n']
  else if c == '\r' then ['\\', 'r']
  else if c == '\t' then ['\\', 't']
  else if c.toNat == 8 then ['\\', 'b']
  else if c.toNat == 12 then ['\\', 'f']
  else if c.toNat < 32 || (ascii && 126 < c.toNat) then codeEscape c.toNat
  else [c]

def stringText (ascii : Bool) (s : String) : String :=
  String.ofList ('"' :: s.toList.flatMap (escapeChar ascii) ++ ['"'])

def floatText : Binary64 → String
  | .nan => "NaN"
  | .infinite negative => if negative then "-Infinity" else "Infinity"
  | x => x.text

def wordText (b : Bool) : String := if b then "true" else "false"

mutual

def compact (ascii : Bool) : Json → String
  | .null => "null"
  | .bool b => wordText b
  | .int n => intText n
  | .float x => floatText x
  | .string s => stringText ascii s
  | .list items => "[" ++ ", ".intercalate (compactItems ascii items) ++ "]"
  | .object members => "\x7b" ++ ", ".intercalate (compactMembers ascii members) ++ "\x7d"

def compactItems (ascii : Bool) : List Json → List String
  | [] => []
  | item :: rest => compact ascii item :: compactItems ascii rest

def compactMembers (ascii : Bool) : List (String × Json) → List String
  | [] => []
  | (key, value) :: rest =>
    (stringText ascii key ++ ": " ++ compact ascii value) :: compactMembers ascii rest

end

def newLine (depth : Nat) : String := "\n" ++ String.ofList (List.replicate (2 * depth) ' ')

def bracketed (opening closing : String) (depth : Nat) (parts : List String) : String :=
  if parts.isEmpty then opening ++ closing
  else opening ++ newLine (depth + 1) ++ ("," ++ newLine (depth + 1)).intercalate parts
    ++ newLine depth ++ closing

mutual

def indentedAt (ascii : Bool) (depth : Nat) : Json → String
  | .null => "null"
  | .bool b => wordText b
  | .int n => intText n
  | .float x => floatText x
  | .string s => stringText ascii s
  | .list items => bracketed "[" "]" depth (indentedItems ascii (depth + 1) items)
  | .object members => bracketed "\x7b" "\x7d" depth (indentedMembers ascii (depth + 1) members)

def indentedItems (ascii : Bool) (depth : Nat) : List Json → List String
  | [] => []
  | item :: rest => indentedAt ascii depth item :: indentedItems ascii depth rest

def indentedMembers (ascii : Bool) (depth : Nat) : List (String × Json) → List String
  | [] => []
  | (key, value) :: rest =>
    (stringText ascii key ++ ": " ++ indentedAt ascii depth value)
      :: indentedMembers ascii depth rest

end

def indented (ascii : Bool) (value : Json) : String := indentedAt ascii 0 value

end Vitae.Json
