import Vitae.Markup.Html
import Vitae.Markup.Token

/-!
Hypertext read back into a tree. A closing tag ends the innermost open element of its name and
everything inside it; without such an element it is passed over. The end of an element that never
has content is understood, and the next closing tag of that name is taken for it. Text goes on until
something else begins or ends.
-/

namespace Vitae

namespace Html

/-- Elements that never have content. -/
def voidNames : List String := [
  "area", "base", "br", "col", "embed", "hr", "img", "input", "keygen", "link", "menuitem", "meta",
  "param", "source", "track", "wbr", "basefont", "bgsound", "command", "frame", "image", "isindex",
  "nextid", "spacer"]

/-- Elements in which white space counts. -/
def preformattedNames : List String := ["pre", "textarea"]

/-- An element that is still open, with its children so far, the last one first. -/
structure Frame where
  tag : Tag
  children : List Html
  deriving BEq, Repr

/-- The element once it is closed. -/
def Frame.element (f : Frame) : Html := .element f.tag f.children.reverse

/-- The open elements, the innermost first, and the children of the document itself. -/
structure Nesting where
  frames : List Frame := []
  roots : List Html := []
  /-- Text that may still go on. -/
  pending : String := ""
  /-- Names of elements whose end was understood and may still be written. -/
  understood : List String := []
  deriving BEq, Repr

namespace Nesting

def add (n : Nesting) (html : Html) : Nesting :=
  match n.frames with
  | [] => { n with roots := html :: n.roots }
  | frame :: rest => { n with frames := { frame with children := html :: frame.children } :: rest }

/-- Text as a child of the innermost element: that of a raw element is kept as it is. -/
def textChild (n : Nesting) (s : String) : Html :=
  match n.frames with
  | frame :: _ => if Token.isRaw frame.tag.name then .verbatim s else .text s
  | [] => .text s

/-- Ends the text that may still go on. -/
def flush (n : Nesting) : Nesting :=
  if n.pending.isEmpty then n else { n.add (n.textChild n.pending) with pending := "" }

def isPreformatted (n : Nesting) : Bool :=
  n.frames.any fun frame => preformattedNames.contains frame.tag.name

/-- The content of something in brackets; outside preformatted elements it is never empty. -/
def contentOf (n : Nesting) (s : String) : String :=
  if s.isEmpty && !n.isPreformatted then " " else s

/-- Closes the innermost element. -/
def close (n : Nesting) : Nesting :=
  match n.frames with
  | [] => n
  | frame :: rest => ({ n with frames := rest }).add frame.element

def closeMany : Nat → Nesting → Nesting
  | 0, n => n
  | count + 1, n => closeMany count n.close

/-- How many elements a closing tag ends. -/
def depthOf (n : Nesting) (name : String) : Nat :=
  match n.frames.findIdx? fun frame => frame.tag.name == name with
  | some i => i + 1
  | none => 0

def push (n : Nesting) (name : String) (attributes : List (String × String)) : Nesting :=
  { n with frames := ⟨{ name, attributes }, []⟩ :: n.frames }

/-- An element that a tag opens, or that it is all of. -/
def openElement (n : Nesting) (name : String) (attributes : List (String × String))
    (closed : Bool) : Nesting :=
  if voidNames.contains name then
    let n := n.add (.void name attributes)
    if closed then n else { n with understood := name :: n.understood }
  else if closed then n.add (.paired name attributes [])
  else n.push name attributes

/-- Ends the innermost element of a name, unless that end was understood before. -/
def endElement (n : Nesting) (name : String) : Nesting :=
  if n.understood.contains name then { n with understood := n.understood.erase name }
  else
    let n := n.flush
    closeMany (n.depthOf name) n

def step (n : Nesting) : Token → Nesting
  | .text s => { n with pending := n.pending ++ s }
  | .bracketed bracket s => n.flush.add (.bracketed bracket (n.contentOf s))
  | .opening name attributes closed => n.flush.openElement name attributes closed
  | .closing name => n.endElement name
  | .unknownSection => n

/-- The document once everything is closed. -/
def finish (n : Nesting) : List Html :=
  let n := n.flush
  (closeMany n.frames.length n).roots.reverse

end Nesting

def ofTokens (tokens : List Token) : List Html := (tokens.foldl Nesting.step {}).finish

def parse (cs : List Char) : List Html := ofTokens (Token.read cs)

/-- Whether a text is refused as a document. -/
def isRefused (cs : List Char) : Bool := (Token.read cs).contains .unknownSection

end Html

end Vitae
