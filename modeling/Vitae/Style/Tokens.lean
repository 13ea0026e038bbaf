import Vitae.Style.Descriptor
import Vitae.Style.Declarations

/-!
Style tokens: a style with every choice made. Resolving a descriptor fills the gaps from its theme,
makes the palette readable and cleans the declarations.
-/

namespace Vitae

open Decimal (Binary64)

structure LayoutTokens where
  page : PageLayout
  headerVariant : HeaderVariant
  sectionStyle : SectionStyle
  sectionOrder : List SectionKind
  spacing : SpacingScale
  skillsDisplay : SkillsDisplay
  showPhoto : Bool
  experienceFormat : ExperienceFormat
  roundedCorners : Bool
  contactLayout : ContactLayout
  headerGradient : HeaderGradient
  headerFullBleed : Bool
  useIcons : Bool
  deriving DecidableEq, Repr

structure StyleTokens where
  styleName : String
  theme : Theme
  scale : TypeScale
  palette : Palette Color
  fontPairing : FontPairing
  layout : LayoutTokens
  decorations : DecorationIntensity
  decorationTheme : DecorationTheme
  declarations : List (StyleZone × String)
  deriving DecidableEq, Repr

/-- Adds a kind at the end unless it is there. -/
def addKind (order : List SectionKind) (kind : SectionKind) : List SectionKind :=
  if order.contains kind then order else order ++ [kind]

/-- The requested kinds, each once, followed by all the others in their own order. -/
def completeOrder (requested : List SectionKind) : List SectionKind :=
  SectionKind.all.foldl addKind (requested.foldl addKind [])

def resolveSectionOrder (requested : List Json) : Checked (List SectionKind) := do
  let kinds ← requested.mapM (Vocabulary.read "sectionOrder")
  return completeOrder kinds

/-- The declarations in the order of their zones' words, without those of which nothing is left. -/
def resolveDeclarations (given : List (String × Json)) : Checked (List (StyleZone × String)) := do
  let sorted := given.mergeSort fun a b => a.1 ≤ b.1
  let cleaned ← sorted.mapM fun (word, css) => do
    let zone : StyleZone ← Vocabulary.read "customCSS" (.string word)
    let text ← Style.sanitize zone.word css
    return (zone, text)
  return cleaned.filter fun entry => !entry.2.isEmpty

def defaultContactLayout (header : HeaderVariant) : ContactLayout :=
  if header = .split then .singleColumn else .singleRow

def defaultGradient (theme : Theme) (header : HeaderVariant) : HeaderGradient :=
  if header = .banner then theme.bannerGradient else .none

def defaultFullBleed (theme : Theme) (header : HeaderVariant) : Bool :=
  header = .banner && theme ≠ .professional

def defaultStyleName (theme : Theme) (scale : TypeScale) : String :=
  theme.title ++ " " ++ scale.word

/-- Tokens, and the changes that were made to the palette. -/
structure Resolution where
  tokens : StyleTokens
  fixes : List PaletteFix
  deriving DecidableEq, Repr

namespace StyleDescriptor

def header (d : StyleDescriptor) : HeaderVariant :=
  d.headerVariant.getD d.theme.defaults.headerVariant

def resolvePalette (d : StyleDescriptor) : Palette Color × List PaletteFix :=
  let given := d.colors.getD d.theme.defaults.palette
  if d.fixContrast then
    let (repaired, fixes) := Palette.repair (d.header = .banner) (given.map Color.swatch)
    (repaired.map Swatch.color, fixes)
  else (given, [])

def resolve (d : StyleDescriptor) : Checked Resolution := do
  let (palette, fixes) := d.resolvePalette
  let declarations ← resolveDeclarations d.declarations
  let order ← resolveSectionOrder d.sectionOrder
  let defaults := d.theme.defaults
  let layout : LayoutTokens := {
    page := d.layout
    headerVariant := d.header
    sectionStyle := d.sectionStyle.getD defaults.sectionStyle
    sectionOrder := order
    spacing := d.spacing
    skillsDisplay := d.skillsDisplay.getD defaults.skillsDisplay
    showPhoto := d.showPhoto
    experienceFormat := d.experienceFormat
    roundedCorners := d.roundedCorners.getD defaults.roundedCorners
    contactLayout := d.contactLayout.getD (defaultContactLayout d.header)
    headerGradient := d.headerGradient.getD (defaultGradient d.theme d.header)
    headerFullBleed := d.headerFullBleed.getD (defaultFullBleed d.theme d.header)
    useIcons := d.useIcons }
  let tokens : StyleTokens := {
    styleName := if d.styleName.isEmpty then defaultStyleName d.theme d.scale else d.styleName
    theme := d.theme
    scale := d.scale
    palette := palette
    fontPairing := d.fontPairing.getD defaults.fontPairing
    layout := layout
    decorations := d.decorations
    decorationTheme := d.decorationTheme
    declarations := declarations }
  return ⟨tokens, fixes⟩

end StyleDescriptor

namespace StyleTokens

/-- Resolves any JSON value given as a style. -/
def resolutionOf (style : Json) : Checked Resolution := do
  match style with
  | .object members => (← StyleDescriptor.ofMembers members).resolve
  | value => throw (.configuration (.styleExpected value))

def ofJson (style : Json) : Checked StyleTokens := do return (← resolutionOf style).tokens

def declarationsFor (t : StyleTokens) (zone : StyleZone) : String :=
  (t.declarations.lookup zone).getD ""

def lineHeight (t : StyleTokens) : Binary64 :=
  Binary64.ofRatio false t.scale.sizes.lineHeightTenths 10

def toJson (t : StyleTokens) : Json :=
  let faces := t.fontPairing.faces
  let sizes := t.scale.sizes
  let l := t.layout
  .object [
    ("styleName", .string t.styleName),
    ("theme", .string t.theme.word),
    ("scale", .string t.scale.word),
    ("palette", .object (t.palette.entries.map fun (name, c) => (name, Json.string c.hex))),
    ("typography", .object [
      ("fontPairing", .string t.fontPairing.word),
      ("headingFont", .string faces.heading.family),
      ("bodyFont", .string faces.body.family),
      ("nameSizePt", .int sizes.name),
      ("headingSizePt", .int sizes.heading),
      ("bodySizePt", .int sizes.body),
      ("lineHeight", .float t.lineHeight)]),
    ("layout", .object [
      ("structure", .string l.page.word),
      ("headerVariant", .string l.headerVariant.word),
      ("sectionStyle", .string l.sectionStyle.word),
      ("sectionOrder", .list (l.sectionOrder.map fun kind => .string kind.word)),
      ("spacing", .string l.spacing.word),
      ("skillsDisplay", .string l.skillsDisplay.word),
      ("showPhoto", .bool l.showPhoto),
      ("experienceFormat", .string l.experienceFormat.word),
      ("roundedCorners", .bool l.roundedCorners),
      ("contactLayout", .string l.contactLayout.word),
      ("headerGradient", .string l.headerGradient.word),
      ("headerFullBleed", .bool l.headerFullBleed),
      ("useIcons", .bool l.useIcons)]),
    ("decorations", .string t.decorations.word),
    ("decorationTheme", .string t.decorationTheme.word),
    ("customCSS", .object (t.declarations.map fun (zone, css) => (zone.word, Json.string css)))]

end StyleTokens

end Vitae
