import Vitae.Color.Contrast

/-!
The five colours of a document, and the changes that make them readable on the white page.
-/

namespace Vitae

structure Palette (α : Type) where
  primary : α
  secondary : α
  accent : α
  text : α
  muted : α
  deriving DecidableEq, Repr

namespace Palette

def names : List String := ["primary", "secondary", "accent", "text", "muted"]

def entries {α : Type} (p : Palette α) : List (String × α) :=
  [("primary", p.primary), ("secondary", p.secondary), ("accent", p.accent), ("text", p.text),
    ("muted", p.muted)]

def map {α β : Type} (f : α → β) (p : Palette α) : Palette β :=
  ⟨f p.primary, f p.secondary, f p.accent, f p.text, f p.muted⟩

/-- Builds the entries one by one in the order of `names`. -/
def build {α : Type} (entry : String → Checked α) : Checked (Palette α) := do
  return ⟨← entry "primary", ← entry "secondary", ← entry "accent", ← entry "text", ← entry "muted"⟩

end Palette

/-- One entry whose colour was changed. -/
structure PaletteFix where
  subject : String
  before : String
  after : Color
  deriving DecidableEq, Repr

def PaletteFix.text (f : PaletteFix) : String :=
  f.subject ++ " " ++ f.before ++ " -> " ++ f.after.hex

namespace Color

/-- What `primary` becomes. Behind a banner it carries white text and is darkened once, with a fixed
colour as the last resort; elsewhere it is text itself. Nothing if it is readable as it is. -/
def fixedPrimary? (banner : Bool) (c : Color) : Option Color :=
  if contrastAtLeast c white textContrast then none
  else if banner then
    let darker := darkenBy 40 c
    some (if contrastAtLeast darker white textContrast then darker else fallbackBanner)
  else some (readableOnWhite textContrast c)

def fixedText? (minimum : Threshold) (c : Color) : Option Color :=
  if contrastAtLeast c white minimum then none else some (readableOnWhite minimum c)

/-- `secondary` is a background and is tinted unless it is light. -/
def fixedSecondary? (c : Color) : Option Color := if c.isLight then none else some (tintBy 80 c)

end Color

/-- An entry under repair: its text as given, and its colour. -/
structure Swatch where
  text : String
  color : Color
  deriving DecidableEq, Repr

def Color.swatch (c : Color) : Swatch := ⟨c.hex, c⟩

/-- The new swatch and, if it changed, what to report. -/
def Swatch.change (s : Swatch) (subject : String) (change : Option Color) :
    Swatch × List PaletteFix :=
  match change with
  | none => (s, [])
  | some c => (c.swatch, [⟨subject, s.text, c⟩])

namespace Palette

def primarySubject (banner : Bool) : String := if banner then "banner background" else "primary"

/-- Makes a palette readable. The changes are reported in the order primary, text, muted, accent,
secondary. -/
def repair (banner : Bool) (p : Palette Swatch) : Palette Swatch × List PaletteFix :=
  let (primary, a) :=
    p.primary.change (primarySubject banner) (Color.fixedPrimary? banner p.primary.color)
  let (text, b) := p.text.change "text" (Color.fixedText? Color.textContrast p.text.color)
  let (muted, c) := p.muted.change "muted" (Color.fixedText? Color.labelContrast p.muted.color)
  let (accent, d) := p.accent.change "accent" (Color.fixedText? Color.labelContrast p.accent.color)
  let (secondary, e) := p.secondary.change "secondary" (Color.fixedSecondary? p.secondary.color)
  (⟨primary, secondary, accent, text, muted⟩, a ++ b ++ c ++ d ++ e)

/-- One entry of an object of named colours. -/
def swatchIn (members : List (String × Json)) (name : String) : Checked Swatch := do
  match Json.get? name members with
  | none => throw (.misuse .absentKey)
  | some value =>
    let color ← Color.read Color.unnamed value
    return ⟨value.plainText, color⟩

/-- Repairs the five entries of an object and leaves its other members alone. -/
def repairMembers (banner : Bool) (members : List (String × Json)) :
    Checked (List (String × Json) × List PaletteFix) := do
  let primary ← swatchIn members "primary"
  let text ← swatchIn members "text"
  let muted ← swatchIn members "muted"
  let accent ← swatchIn members "accent"
  let secondary ← swatchIn members "secondary"
  let (repaired, fixes) := repair banner ⟨primary, secondary, accent, text, muted⟩
  let put := fun members (entry : String × Swatch) =>
    putMember entry.1 (Json.string entry.2.text) members
  return (repaired.entries.foldl put members, fixes)

end Palette

end Vitae
