import Vitae.Json.Basic
import Vitae.Text.Quoted
import Vitae.Decimal.Fixed

/-!
The text of a JSON value in messages: a string stands for itself at the top and is quoted inside a
list or an object.
-/

namespace Vitae.Json

open Decimal (intText)

def boolText (b : Bool) : String := if b then "True" else "False"

mutual

def quotedText : Json → String
  | .null => "None"
  | .bool b => boolText b
  | .int n => intText n
  | .float x => x.text
  | .string s => Text.quoted s
  | .list items => "[" ++ ", ".intercalate (quotedItems items) ++ "]"
  | .object members => "\x7b" ++ ", ".intercalate (quotedMembers members) ++ "\x7d"

def quotedItems : List Json → List String
  | [] => []
  | item :: rest => quotedText item :: quotedItems rest

def quotedMembers : List (String × Json) → List String
  | [] => []
  | (key, value) :: rest => (Text.quoted key ++ ": " ++ quotedText value) :: quotedMembers rest

end

def plainText : Json → String
  | .string s => s
  | value => quotedText value

def typeName : Json → String
  | .null => "NoneType"
  | .bool _ => "bool"
  | .int _ => "int"
  | .float _ => "float"
  | .string _ => "str"
  | .list _ => "list"
  | .object _ => "dict"

end Vitae.Json
