import Vitae.Decoration
import Vitae.Document.Amendment
import Vitae.Document.Mode
import Vitae.Document.Page
import Vitae.Document.Script
import Vitae.Element.Markup
import Vitae.Markup.Tile
import Vitae.Style.Sheet

/-!
Compilation: content, style and overrides become one document. The modes share everything but what
they add on top: a sheet and a script for editing, or a sheet, a tile and a script for protection.
-/

namespace Vitae

structure Protection where
  text : Text.Points
  blockCopy : Bool := true
  deriving DecidableEq, Repr

def defaultWatermark : String := "CV PREVIEW"

def defaultChannel : String := "cv-preview"

/-- What a document is rendered for. -/
structure RenderOptions where
  mode : RenderMode := .exported
  protection : Option Protection := none
  channel : Json := .string defaultChannel
  deriving BEq, Repr

/-- What a mode adds to a page. -/
structure ModeLayer where
  editSheet : String := ""
  protectionSheet : String := ""
  tile : String := ""
  scripts : List PageScript := []
  deriving DecidableEq, Repr

namespace ModeLayer

def interactive (channel : Json) : ModeLayer :=
  { editSheet := Vitae.editSheet
    scripts := [⟨"cv-edit-script", "", editScript channel (Decimal.natText labelLimit)⟩] }

def protecting (text : String) (blockCopy : Bool) : ModeLayer :=
  { protectionSheet := Vitae.protectionSheet blockCopy
    tile := Tile.address (Text.trim text)
    scripts := if blockCopy then [⟨"cv-protection-script", "guard", protectionScript⟩] else [] }

/-- The layer of a mode. A protected preview needs a text to protect it with, and the tile needs its
UTF-8 form. -/
def of (options : RenderOptions) : Checked ModeLayer :=
  match options.mode, options.protection with
  | .interactive, _ => .ok (interactive options.channel)
  | .exported, _ => .ok {}
  | .previewProtected, none => .error (.render .unprotected)
  | .previewProtected, some p =>
    if p.text.isBlank then .error (.render .blankWatermark)
    else do return protecting (← p.text.encodable) p.blockCopy

end ModeLayer

/-- The colours of a style are written in ASCII, so that they can always be seeded with. -/
def StyleTokens.seedColors (tokens : StyleTokens) : SeedColors :=
  ⟨tokens.palette.primary.hex, tokens.palette.accent.hex, tokens.palette.secondary.hex⟩

namespace DocumentTree

def columnHtml (d : DocumentTree) (column : Column) : List (List Html) :=
  (d.sections.filter fun s => s.column = column).map fun s => [s.root.html]

/-- The page of a tree under a layer. -/
def page (d : DocumentTree) (tokens : StyleTokens) (layer : ModeLayer) (title : String) : Page :=
  { title := title
    fontUrls := tokens.fontPairing.faces.urls
    stylesheet := tokens.stylesheet
    editSheet := layer.editSheet
    protectionSheet := layer.protectionSheet
    decorations := Decoration.layer
      (tokens.seedColors.decorations tokens.decorations tokens.decorationTheme)
    header := [d.header.html]
    layout := tokens.layout.page.word
    sidebar := d.columnHtml .sidebar
    main := d.columnHtml .main
    tile := layer.tile
    scripts := layer.scripts }

/-- The text of a tree that has its ids and overrides. -/
def render (d : DocumentTree) (tokens : StyleTokens) (options : RenderOptions) (title : String) :
    Checked String := do
  return (d.page tokens (← ModeLayer.of options) title).text

end DocumentTree

/-- The tree that a content, a layout and overrides come to. -/
def compiledTree (content : Content) (layout : LayoutTokens) (overrides : OverrideSet) :
    Checked DocumentTree := do
  let tree ← (DocumentTree.assemble content layout).identify
  return (← tree.applyOverrides overrides).1

/-- The document of a content whose style is resolved. A protected preview that is not told how is
protected in the default way. -/
def compileWith (content : Content) (tokens : StyleTokens) (overrides : OverrideSet)
    (options : RenderOptions) : Checked String := do
  let tree ← compiledTree content tokens.layout overrides
  let protection := options.protection.getD ⟨defaultWatermark, true⟩
  tree.render tokens { options with protection := some protection }
    ("CV - " ++ Text.trim content.fullName)

/-- A document needs a name. -/
def Content.requireName (content : Content) : Checked Unit :=
  if Text.isBlankText content.fullName then .error (.render .unnamed) else .ok ()

/-- The elements of a document that overrides hide in vain, because they are required. They are told
as the overrides are gone through, before a stale one can fail. -/
def ignoredOverrides (content : Content) (layout : LayoutTokens) (overrides : OverrideSet) :
    Checked (List String) := do
  content.requireName
  let tree ← (DocumentTree.assemble content layout).identify
  return (tree.overrideReport overrides).ignored

/-- Compiles a document: the name comes first of what can be wrong, then the style. -/
def compile (content : Content) (style : Checked StyleTokens) (overrides : OverrideSet)
    (options : RenderOptions) : Checked String := do
  content.requireName
  compileWith content (← style) overrides options

end Vitae
