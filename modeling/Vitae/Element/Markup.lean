import Vitae.Element.Basic
import Vitae.Markup.Html

/-!
Elements as hypertext. Attributes come in a fixed order: the classes, what identifies the element,
the others by name, then the styles by name.
-/

namespace Vitae

/-- Pairs in the order of their names. -/
def sortPairs {α : Type} (pairs : List (String × α)) : List (String × α) :=
  pairs.mergeSort fun a b => a.1 ≤ b.1

namespace ElementHead

def isVoid (h : ElementHead) : Bool := ["img", "br", "hr"].contains h.tag

def classAttribute (h : ElementHead) : List (String × String) :=
  if h.classes.isEmpty then [] else [("class", " ".intercalate h.classes)]

/-- An attribute for a text that is there and not empty. -/
def textAttribute (name : String) : Option String → List (String × String)
  | some s => if s.isEmpty then [] else [(name, s)]
  | none => []

/-- What identifies an element; without an id there is neither type nor label. -/
def identityAttributes (h : ElementHead) : List (String × String) :=
  match textAttribute "data-element-id" h.id with
  | [] => []
  | id => id ++ textAttribute "data-element-type" (h.type.map ElementType.word)
      ++ textAttribute "data-element-label" h.label

def styleAttribute (h : ElementHead) : List (String × String) :=
  if h.style.isEmpty then []
  else
    let texts := (sortPairs h.style).map fun (name, value) => name ++ ": " ++ value
    [("style", "; ".intercalate texts ++ ";")]

def allAttributes (h : ElementHead) : List (String × String) :=
  h.classAttribute ++ h.identityAttributes ++ sortPairs h.attributes ++ h.styleAttribute

/-- The text in front of the children. -/
def textHtml (h : ElementHead) : List Html :=
  match h.text with
  | some s => if s.isEmpty then [] else [.text s]
  | none => []

end ElementHead

namespace Element

mutual

def html : Element → Html
  | .node head children =>
    if head.isVoid then .void head.tag head.allAttributes
    else .paired head.tag head.allAttributes (head.textHtml ++ htmlAll children)

def htmlAll : List Element → List Html
  | [] => []
  | element :: rest => html element :: htmlAll rest

end

end Element

end Vitae
