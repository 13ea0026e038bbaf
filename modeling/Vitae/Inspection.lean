import Vitae.Markup.Parser
import Vitae.Element.Markup

/-!
Documents compared without what a mode adds. The signature is a canonical text of everything that
belongs to the layout; two documents with one signature look alike.
-/

namespace Vitae

namespace Html

def attribute? (name : String) : Html → Option String
  | .element tag _ => tag.attributes.lookup name
  | _ => none

def isNamed (names : List String) : Html → Bool
  | .element tag _ => names.contains tag.name
  | _ => false

/-- Scripts, the style sheets of the modes, and whatever protects a preview. -/
def isModeLayer (html : Html) : Bool :=
  html.isNamed ["script"]
    || (html.attribute? "id").any (fun id => ["cv-edit-styles", "cv-protection-styles"].contains id)
    || (html.attribute? "data-protection").isSome

/-- White space and nothing else, but some of it. -/
def isBlank : Html → Bool
  | .text s => !s.isEmpty && Text.isBlankText s
  | .verbatim s => !s.isEmpty && Text.isBlankText s
  | .bracketed _ s => !s.isEmpty && Text.isBlankText s
  | .element _ _ => false

mutual

/-- A tree without the parts that are not wanted. -/
def without (unwanted : Html → Bool) : Html → Html
  | .element tag children => .element tag (withoutAll unwanted children)
  | html => html

def withoutAll (unwanted : Html → Bool) : List Html → List Html
  | [] => []
  | html :: rest =>
    if unwanted html then withoutAll unwanted rest
    else without unwanted html :: withoutAll unwanted rest

end

mutual

/-- The values of an attribute in document order. -/
def attributeValues (name : String) : Html → List String
  | .element tag children =>
    (match tag.attributes.lookup name with
      | some value => [value]
      | none => []) ++ attributeValuesAll name children
  | _ => []

def attributeValuesAll (name : String) : List Html → List String
  | [] => []
  | html :: rest => attributeValues name html ++ attributeValuesAll name rest

end

/-- Elements whose text is not part of the text around them. -/
def asideNames : List String := ["template", "rt", "rp"]

mutual

/-- The texts in document order. In an aside there are none but those of sections. -/
def texts (aside : Bool) : Html → List String
  | .text s => if aside then [] else [s]
  | .bracketed .section s => [s]
  | .element tag children => textsAll (aside || asideNames.contains tag.name) children
  | _ => []

def textsAll (aside : Bool) : List Html → List String
  | [] => []
  | html :: rest => texts aside html ++ textsAll aside rest

end

/-- The escapes that text needs. -/
def escapeText : Escape
  | '&' => "&amp;".toList
  | '<' => "&lt;".toList
  | '>' => "&gt;".toList
  | c => [c]

/-- An attribute value in quotes: double ones unless it holds some, with a reference for those of a
value that holds both kinds. -/
def quotedValue (value : String) : List Char :=
  let cs := value.toList.flatMap escapeText
  if cs.contains '"' then
    if cs.contains '\'' then
      '"' :: cs.flatMap (fun c => if c = '"' then "&quot;".toList else [c]) ++ ['"']
    else '\'' :: cs ++ ['\'']
  else '"' :: cs ++ ['"']

/-- A list of parameters in which every character set that is named is UTF-8. A parameter starts the
list or follows white space or a semicolon. -/
def inUtf8 (starts : Bool) : List Char → List Char
  | [] => []
  | c :: rest =>
    if starts && "charset=".toList.isPrefixOf (c :: rest) then
      "charset=utf-8".toList ++ inUtf8 false ((rest.drop 7).dropWhile (· ≠ ';'))
    else c :: inUtf8 (Text.isBlank c || c = ';') rest
termination_by cs => cs.length
decreasing_by
  · have := (List.dropWhile_sublist (· ≠ ';') (l := rest.drop 7)).length_le
    simp only [List.length_drop, List.length_cons] at *
    omega
  · simp

/-- Whether an element states the character set among the parameters of its content. -/
def statesContentType (tag : Tag) : Bool :=
  tag.name == "meta" && (tag.attributes.lookup "charset").isNone
    && ((tag.attributes.lookup "http-equiv").map Text.lower) == some "content-type"

/-- The value an attribute is written with: documents are always said to be in UTF-8. -/
def canonicalValue (tag : Tag) (pair : String × String) : String :=
  if tag.name == "meta" && pair.1 == "charset" then "utf-8"
  else if statesContentType tag && pair.1 == "content" then
    String.ofList (inUtf8 true pair.2.toList)
  else pair.2

def canonicalAttributes (tag : Tag) : List Char :=
  (sortPairs tag.attributes).flatMap fun pair =>
    ' ' :: pair.1.toList ++ '=' :: quotedValue (canonicalValue tag pair)

mutual

/-- The canonical text of a tree. Attributes are sorted, and an element that never has content is
closed in itself. -/
def canonical : Html → List Char
  | .text s => s.toList.flatMap escapeText
  | .verbatim s => s.toList
  | .bracketed .doctype s => bracketChars .doctype s ++ ['\n']
  | .bracketed bracket s => bracketChars bracket s
  | .element tag children =>
    '<' :: tag.name.toList ++ canonicalAttributes tag
      ++ (if tag.form = .void then ['/', '>']
          else '>' :: canonicalAll children ++ '<' :: '/' :: tag.name.toList ++ ['>'])

def canonicalAll : List Html → List Char
  | [] => []
  | html :: rest => canonical html ++ canonicalAll rest

end

end Html

namespace Inspection

/-- Refuses a text that cannot be read as a document at all. -/
def check (document : String) : Checked Unit :=
  if Html.isRefused document.toList then .error (.misuse .refusedMarkup) else .ok ()

/-- The tree of a document without what its mode adds. -/
def layout (document : String) : List Html :=
  Html.withoutAll Html.isModeLayer (Html.parse document.toList)

/-- The canonical text of a document's layout, without white space between elements. -/
def signature (document : String) : String :=
  String.ofList (Html.canonicalAll (Html.withoutAll Html.isBlank (layout document)))

def sameLayout (first second : String) : Bool := signature first == signature second

/-- The ids of the elements of a document, in its order. -/
def elementIds (document : String) : List String :=
  Html.attributeValuesAll "data-element-id" (Html.parse document.toList)

/-- Parts of a document that are never shown as text. -/
def isSilent (html : Html) : Bool := html.isNamed ["style", "head"]

/-- The lines of text that a reader of the document sees. -/
def visibleLines (document : String) : List String :=
  let shown := Html.withoutAll isSilent (layout document)
  let text := "\n".intercalate (Html.textsAll false shown)
  ((Text.lines text).map Text.trim).filter fun line => !line.isEmpty

def visibleText (document : String) : String := "\n".intercalate (visibleLines document)

end Inspection

end Vitae
