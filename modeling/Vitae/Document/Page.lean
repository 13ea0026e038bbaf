import Vitae.Markup.Html

/-!
The page around a document: its head with the style sheets, the columns of its body, and what a mode
adds. Every part stands on lines of its own.
-/

namespace Vitae

structure PageScript where
  id : String
  /-- What the script protects, if anything. -/
  role : String
  body : String
  deriving DecidableEq, Repr

/-- The parts of a page. A sheet, a layer or a tile that is empty is left out. -/
structure Page where
  title : String
  fontUrls : List String
  stylesheet : String
  editSheet : String
  protectionSheet : String
  decorations : List Html
  header : List Html
  layout : String
  sidebar : List (List Html)
  main : List (List Html)
  tile : String
  scripts : List PageScript
  deriving BEq, Repr

namespace Page

def lineEnd : Html := .text "\n"

/-- Every part on a line of its own. -/
def onLines (parts : List (List Html)) : List Html :=
  lineEnd :: parts.flatMap fun part => part ++ [lineEnd]

def box (cls : String) (parts : List (List Html)) : List Html :=
  [.paired "div" [("class", cls)] (onLines parts)]

/-- A part that is there only if the condition holds. -/
def onlyIf (condition : Bool) (part : List Html) : List (List Html) :=
  if condition then [part] else []

def styleBlock (id css : String) : List Html :=
  [.paired "style" [("id", id)] [.verbatim ("\n" ++ css ++ "\n")]]

def optionalStyle (id css : String) : List (List Html) := onlyIf (!css.isEmpty) (styleBlock id css)

def headParts (p : Page) : List (List Html) :=
  [[.void "meta" [("charset", "UTF-8")]],
    [.void "meta" [("name", "viewport"), ("content", "width=device-width, initial-scale=1.0")]],
    [.paired "title" [] (if p.title.isEmpty then [] else [.text p.title])]]
    ++ (p.fontUrls.map fun url => [.void "link" [("href", url), ("rel", "stylesheet")]])
    ++ [styleBlock "cv-styles" p.stylesheet]
    ++ optionalStyle "cv-edit-styles" p.editSheet
    ++ optionalStyle "cv-protection-styles" p.protectionSheet

def columns (p : Page) : List Html :=
  box ("cv-body layout-" ++ p.layout)
    (onlyIf (!p.sidebar.isEmpty) (box "cv-sidebar" p.sidebar) ++ [box "cv-main" p.main])

/-- The content of the page, which is the same in every mode. -/
def wrapper (p : Page) : List Html :=
  box "cv-wrapper"
    (onlyIf (!p.decorations.isEmpty) p.decorations ++ [box "cv-container" [p.header, p.columns]])

def overlay (tile : String) : List Html :=
  [.paired "div" [("class", "cv-watermark"), ("data-protection", "watermark"),
    ("aria-hidden", "true"), ("style", "background-image: url(" ++ tile ++ ");")] []]

def scriptBlock (script : PageScript) : List Html :=
  [.paired "script"
    (("id", script.id)
      :: (if script.role.isEmpty then [] else [("data-protection", script.role)]))
    [.verbatim ("\n" ++ script.body ++ "\n")]]

def bodyParts (p : Page) : List (List Html) :=
  p.wrapper :: onlyIf (!p.tile.isEmpty) (overlay p.tile) ++ p.scripts.map scriptBlock

def html (p : Page) : List Html :=
  [.bracketed .doctype "html", lineEnd,
    .paired "html" [("lang", "en")]
      (onLines [[.paired "head" [] (onLines p.headParts)],
        [.paired "body" [] (onLines p.bodyParts)]])]

def text (p : Page) : String := Html.markupAll p.html

end Page

end Vitae
