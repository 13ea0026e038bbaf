import Vitae.Element.Type
import Vitae.Text.Digit
import Vitae.Text.Split

/-!
Ids of elements. An id is written as the path of the element joined by hyphens, and mostly tells
what kind of element it names.
-/

namespace Vitae

open Decimal (Binary64)

/-- What an override names. Elements have texts for ids; the other values name no element, and
numbers of one value are one id. -/
inductive ElementId where
  | text (s : String)
  | whole (n : Int)
  | fraction (x : Binary64)
  | nothing
  | compound (text : String)
  deriving DecidableEq, Repr

namespace ElementId

def ofJson : Json → ElementId
  | .null => .nothing
  | .bool b => .whole (if b then 1 else 0)
  | .int n => .whole n
  | .float x =>
    match x.ratio? with
    | some (n, d) => if n % d = 0 then .whole (n / d) else .fraction x
    | none => .fraction x
  | .string s => .text s
  | value => .compound value.quotedText

/-- Lists and objects cannot be looked up. -/
def canLookUp : ElementId → Bool
  | .compound _ => false
  | _ => true

def isText : ElementId → Bool
  | .text _ => true
  | _ => false

/-- The id of the element at a path. -/
def ofPath (path : List String) : String := "-".intercalate path

end ElementId

namespace ElementType

/-- The type of an element that has children of its own, by the first piece of its id. -/
def ofItemPiece? (piece : String) : Option ElementType :=
  match piece with
  | "experience" => some .experienceItem
  | "education" => some .educationItem
  | "languages" => some .languageItem
  | "certifications" => some .certificationItem
  | _ => none

def isNumeral (s : String) : Bool := !s.isEmpty && s.toList.all Text.isDigitLike

def inferFromPieces (id : String) : List String → ElementType
  | "skills" :: rest => if rest.length = 2 then .skillTag else .skillGroup
  | "header" :: _ => if id = "header-photo" then .photo else .headerField
  | [first, _] => (ofItemPiece? first).getD .field
  | ["experience", _, last] => if isNumeral last then .highlight else .field
  | _ => .field

/-- The type that an id suggests where none is given. -/
def infer (id : String) : ElementType :=
  let cs := id.toList
  if id = "header" then .header
  else if "section-".toList.isPrefixOf cs then
    if "-title".toList.isSuffixOf cs then .sectionTitle else .sectionBlock
  else if id = "summary" then .summary
  else inferFromPieces id ((Text.splitChars '-' cs).map String.ofList)

end ElementType

end Vitae
