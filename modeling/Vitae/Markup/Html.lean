/-!
Hypertext as a tree, and its text. How character data and attribute values are escaped is left to
whoever writes them; style sheets and scripts are never escaped.
-/

namespace Vitae

/-- How the tag of an element is written: with an end tag, without one, or closed in itself. -/
inductive TagForm where
  | paired
  | void
  | selfClosed
  deriving DecidableEq, Repr

structure Tag where
  name : String
  attributes : List (String × String) := []
  form : TagForm := .paired
  deriving DecidableEq, Repr

/-- What a document can hold besides text and elements. -/
inductive Bracket where
  | comment
  | doctype
  | instruction
  | declaration
  | section
  deriving DecidableEq, Repr

def Bracket.opening : Bracket → String
  | .comment => "<!--"
  | .doctype => "<!DOCTYPE "
  | .instruction => "<?"
  | .declaration => "<?"
  | .section => "<![CDATA["

def Bracket.ending : Bracket → String
  | .comment => "-->"
  | .doctype => ">"
  | .instruction => ">"
  | .declaration => "?>"
  | .section => "]]>"

inductive Html where
  | text (s : String)
  | verbatim (s : String)
  | bracketed (bracket : Bracket) (s : String)
  | element (tag : Tag) (children : List Html)
  deriving BEq, Repr

namespace Html

def bracketChars (bracket : Bracket) (s : String) : List Char :=
  bracket.opening.toList ++ s.toList ++ bracket.ending.toList

/-- What each character of a text is written as. -/
abbrev Escape := Char → List Char

def asItIs : Escape := fun c => [c]

/-- The escapes of markup: both kinds of quotes are safe in attribute values. -/
def escapeMarkup : Escape
  | '&' => "&amp;".toList
  | '<' => "&lt;".toList
  | '>' => "&gt;".toList
  | '"' => "&#34;".toList
  | '\'' => "&#39;".toList
  | c => [c]

def escaped (s : String) : String := String.ofList (s.toList.flatMap escapeMarkup)

def attributeChars (escape : Escape) (pair : String × String) : List Char :=
  ' ' :: pair.1.toList ++ '=' :: '"' :: pair.2.toList.flatMap escape ++ ['"']

def openChars (escape : Escape) (tag : Tag) : List Char :=
  '<' :: tag.name.toList ++ tag.attributes.flatMap (attributeChars escape)
    ++ (if tag.form = .selfClosed then ['/', '>'] else ['>'])

def closeChars (tag : Tag) : List Char :=
  if tag.form = .paired then '<' :: '/' :: tag.name.toList ++ ['>'] else []

mutual

def chars (escape : Escape) : Html → List Char
  | .text s => s.toList.flatMap escape
  | .verbatim s => s.toList
  | .bracketed bracket s => bracketChars bracket s
  | .element tag children => openChars escape tag ++ charsAll escape children ++ closeChars tag

def charsAll (escape : Escape) : List Html → List Char
  | [] => []
  | html :: rest => chars escape html ++ charsAll escape rest

end

/-- The text of a tree with the escapes of markup. -/
def markup (html : Html) : String := String.ofList (chars escapeMarkup html)

def markupAll (htmls : List Html) : String := String.ofList (charsAll escapeMarkup htmls)

/-- The text of a tree whose attribute values are written as they are. -/
def plainAll (htmls : List Html) : String := String.ofList (charsAll asItIs htmls)

/-- An element with an end tag. -/
def paired (name : String) (attributes : List (String × String)) (children : List Html) : Html :=
  .element { name, attributes } children

def void (name : String) (attributes : List (String × String)) : Html :=
  .element { name, attributes, form := .void } []

def selfClosed (name : String) (attributes : List (String × String)) : Html :=
  .element { name, attributes, form := .selfClosed } []

end Html

end Vitae
