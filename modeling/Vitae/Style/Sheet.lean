import Vitae.Style.Rules

/-!
The style sheet of a document. It depends on the tokens alone, so every render mode has the same
one; what a mode adds is a sheet of its own.
-/

namespace Vitae

open Decimal (natText unitsText)

/-- What a style sheet is made of: the variables that its rules refer to, the rules of every choice,
the optional parts, and rules of the author's own. -/
structure SheetParts where
  rootVariables : List (String × String)
  /-- What is chosen, the word of the choice, and its rules. -/
  choices : List (String × String × String)
  fullBleed : Bool
  icons : Bool
  decorations : Bool
  custom : List (String × String)
  deriving DecidableEq, Repr

namespace SheetParts

def variableRule (p : SheetParts) : StyleRule :=
  ⟨":root", p.rootVariables.map fun (name, value) => "--" ++ name ++ ": " ++ value⟩

/-- The rules of one choice under a comment that names it. -/
def choiceText (choice : String × String × String) : String :=
  "/* " ++ choice.1 ++ ": " ++ choice.2.1 ++ " */\n" ++ choice.2.2

/-- Rules that stand only if a condition holds. -/
def optionalText (wanted : Bool) (rules : List StyleRule) : String :=
  if wanted then "\n" ++ StyleRule.sheet rules ++ "\n" else ""

def customRuleText (rule : String × String) : String :=
  "\n" ++ rule.1 ++ " \x7b " ++ rule.2 ++ " \x7d\n"

/-- The sheet up to the author's own rules. -/
def fixedText (p : SheetParts) : String :=
  StyleRule.sheet (p.variableRule :: pageRules) ++ "\n\n"
    ++ "\n\n".intercalate (p.choices.map choiceText) ++ "\n"
    ++ optionalText p.fullBleed fullBleedRules
    ++ optionalText p.icons contactIconRules
    ++ optionalText p.decorations decorationRules
    ++ "\n" ++ StyleRule.media "print" printRules ++ "\n"

def text (p : SheetParts) : String := p.fixedText ++ String.join (p.custom.map customRuleText)

end SheetParts

namespace StyleTokens

/-- On a banner the titles step darker, so as not to blend into it. -/
def titleColor (t : StyleTokens) : Color :=
  if t.layout.headerVariant = .banner then t.palette.primary.darkenBy 25 else t.palette.primary

def borderColor (t : StyleTokens) : Color :=
  let muted := t.palette.muted
  if 2 * muted.luminance < Color.fullLuminance then muted.lightenBy 35 else muted.darkenBy 15

def customRules (t : StyleTokens) : List (String × String) :=
  t.declarations.map fun (zone, css) => (zone.selector, css)

def points (n : Nat) : String := natText n ++ "pt"

/-- The variables that the rules refer to. -/
def rootVariables (t : StyleTokens) : List (String × String) :=
  let p := t.palette
  let faces := t.fontPairing.faces
  let sizes := t.scale.sizes
  let gaps := t.layout.spacing.distances
  [("color-primary", p.primary.hex), ("color-secondary", p.secondary.hex),
    ("color-accent", p.accent.hex), ("color-text", p.text.hex), ("color-muted", p.muted.hex),
    ("color-border", t.borderColor.hex), ("color-header-text", (Color.textOn p.primary).hex),
    ("color-section-title", t.titleColor.hex), ("color-primary-deep", (p.primary.darkenBy 30).hex),
    ("color-primary-glow", (p.primary.tintBy 25).hex), ("font-heading", faces.heading.family),
    ("font-body", faces.body.family), ("size-name", points sizes.name),
    ("size-heading", points sizes.heading), ("size-body", points sizes.body),
    ("size-small", points sizes.small), ("line-height", unitsText sizes.lineHeightTenths 1),
    ("space-section", gaps.sectionGap), ("space-item", gaps.item), ("space-element", gaps.element),
    ("space-page", gaps.pageMargin), ("radius", if t.layout.roundedCorners then "4pt" else "0")]

def sheetParts (t : StyleTokens) : SheetParts :=
  let l := t.layout
  { rootVariables := t.rootVariables
    choices := [
      ("header", l.headerVariant.word, StyleRule.sheet l.headerVariant.rules),
      ("sections", l.sectionStyle.word, StyleRule.sheet l.sectionStyle.rules),
      ("skills", l.skillsDisplay.word, StyleRule.sheet l.skillsDisplay.rules),
      ("layout", l.page.word, StyleRule.sheet l.page.rules),
      ("contact", l.contactLayout.word, StyleRule.sheet l.contactLayout.rules),
      ("header gradient", l.headerGradient.word, StyleRule.sheet l.headerGradient.rules)]
    fullBleed := l.headerFullBleed
    icons := l.useIcons
    decorations := t.decorations ≠ .none
    custom := t.customRules }

def stylesheet (t : StyleTokens) : String := t.sheetParts.text

end StyleTokens

/-- What edit mode adds. -/
def editSheet : String := StyleRule.sheet editRules

/-- What protection adds: the overlay and, if copying is blocked, a guard against selection. -/
def protectionSheet (blockCopy : Bool) : String :=
  StyleRule.sheet ((if blockCopy then copyGuardRules else []) ++ overlayRules) ++ "\n\n"
    ++ StyleRule.media "print" overlayPrintRules

end Vitae
