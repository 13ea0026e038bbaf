import Vitae.Style.Tables

/-!
A style as its author writes it: a few choices, most of them optional. Reading checks every choice
that is a word, a truth value or a colour; the section order and the declarations are kept as given.
-/

namespace Vitae

structure StyleDescriptor where
  theme : Theme := .professional
  fontPairing : Option FontPairing := none
  scale : TypeScale := .medium
  spacing : SpacingScale := .comfortable
  colors : Option (Palette Color) := none
  headerVariant : Option HeaderVariant := none
  sectionStyle : Option SectionStyle := none
  skillsDisplay : Option SkillsDisplay := none
  decorations : DecorationIntensity := .none
  layout : PageLayout := .singleColumn
  experienceFormat : ExperienceFormat := .bullets
  sectionOrder : List Json := []
  showPhoto : Bool := false
  roundedCorners : Option Bool := none
  contactLayout : Option ContactLayout := none
  headerGradient : Option HeaderGradient := none
  headerFullBleed : Option Bool := none
  useIcons : Bool := false
  decorationTheme : DecorationTheme := .abstract
  fixContrast : Bool := true
  declarations : List (String × Json) := []
  styleName : String := ""
  deriving BEq, Repr

namespace StyleDescriptor

/-- A choice that may be left out or null. -/
def optionalWord {α : Type} [Vocabulary α] (members : List (String × Json)) (key : String) :
    Checked (Option α) :=
  match Json.getOrNull key members with
  | .null => .ok none
  | value => (Vocabulary.read key value).map some

/-- A choice that may be left out but not be null. -/
def wordOr {α : Type} [Vocabulary α] (default : α) (members : List (String × Json)) (key : String) :
    Checked α :=
  match Json.get? key members with
  | none => .ok default
  | some value => Vocabulary.read key value

def optionalFlag (members : List (String × Json)) (key : String) : Checked (Option Bool) :=
  match Json.getOrNull key members with
  | .null => .ok none
  | value => (readFlag key value).map some

def flagOr (default : Bool) (members : List (String × Json)) (key : String) : Checked Bool :=
  (optionalFlag members key).map (·.getD default)

/-- A palette is null or complete. -/
def readColors : Json → Checked (Option (Palette Color))
  | .null => .ok none
  | .object colors => do
    let missing := Palette.names.filter fun name => !(Json.getOrNull name colors).truthy
    if !missing.isEmpty then throw (.configuration (.paletteIncomplete missing))
    let palette ← Palette.build fun name =>
      Color.read ("colors." ++ name) (Json.getOrNull name colors)
    return some palette
  | value => .error (.configuration (.paletteExpected value))

def readDeclarations (value : Json) : Checked (List (String × Json)) :=
  match value with
  | .object rules => .ok rules
  | value => if value.truthy then .error (.configuration .styleRulesExpected) else .ok []

def readOrder (value : Json) : Checked (List Json) :=
  if value.truthy then value.itemsOf else .ok []

/-- The text of a value; whatever counts as false has none. -/
def textOrEmpty (value : Json) : String := if value.truthy then value.plainText else ""

def ofMembers (members : List (String × Json)) : Checked StyleDescriptor := do
  let colors ← readColors (Json.getOrNull "colors" members)
  let declarations ← readDeclarations (Json.getOrNull "customCSS" members)
  return {
    theme := ← wordOr .professional members "themeBase"
    fontPairing := ← optionalWord members "fontPairing"
    scale := ← wordOr .medium members "scale"
    spacing := ← wordOr .comfortable members "spacing"
    colors := colors
    headerVariant := ← optionalWord members "headerVariant"
    sectionStyle := ← optionalWord members "sectionStyle"
    skillsDisplay := ← optionalWord members "skillsDisplay"
    decorations := ← wordOr .none members "decorations"
    layout := ← wordOr .singleColumn members "layout"
    experienceFormat := ← wordOr .bullets members "experienceDescriptionFormat"
    sectionOrder := ← readOrder (Json.getOrNull "sectionOrder" members)
    showPhoto := ← flagOr false members "showPhoto"
    roundedCorners := ← optionalFlag members "roundedCorners"
    contactLayout := ← optionalWord members "contactLayout"
    headerGradient := ← optionalWord members "headerGradient"
    headerFullBleed := ← optionalFlag members "headerFullBleed"
    useIcons := ← flagOr false members "useIcons"
    decorationTheme := ← wordOr .abstract members "decorationTheme"
    fixContrast := ← flagOr true members "fixContrast"
    declarations := declarations
    styleName := textOrEmpty (Json.getOrNull "styleName" members) }

def ofJson (value : Json) : Checked StyleDescriptor := do ofMembers (← value.membersOf)

/-- The style of a document that has none yet. -/
def standard : StyleDescriptor := { styleName := "Professional Modern" }

end StyleDescriptor

end Vitae
