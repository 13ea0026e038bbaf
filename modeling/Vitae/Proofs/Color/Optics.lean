import Mathlib.Algebra.Order.Field.Basic
import Mathlib.Algebra.Order.Field.Rat
import Mathlib.Order.Fin.Basic
import Mathlib.Tactic.FieldSimp
import Mathlib.Tactic.Linarith
import Mathlib.Tactic.NormNum
import Vitae.Proofs.Color.Repair

/-!
Repair of palettes for any eye. What is light and what stands out from white depends on a luminance,
and the steps that are tried depend on how colours are mixed. Palettes are repaired here for any
luminance, mixing exactly or in binary arithmetic, and documents do it for one of these.
-/

namespace Vitae

open Color (clampChannel fallbackBanner fallbackDark fullLuminance white)
open Decimal (roundDiv)

/-- How a colour is darkened and tinted by a whole percentage: exactly and then rounded, or in
binary arithmetic. -/
inductive Mixing where
  | exact
  | binary
  deriving DecidableEq, Repr

namespace Mixing

/-- So many hundredths of a channel, rounded to the nearest whole number, a tie going to the even
one. -/
def ofHundredths (n : Nat) : Channel := clampChannel (roundDiv n 100)

def darken (percent : Nat) (c : Color) : Mixing → Color
  | .exact =>
    let channel := fun (v : Channel) => ofHundredths (v.val * (100 - percent))
    ⟨channel c.red, channel c.green, channel c.blue⟩
  | .binary => c.darkenBy percent

def tint (percent : Nat) (c : Color) : Mixing → Color
  | .exact =>
    let channel := fun (v : Channel) => ofHundredths (100 * v.val + (255 - v.val) * percent)
    ⟨channel c.red, channel c.green, channel c.blue⟩
  | .binary => c.tintBy percent

end Mixing

/-- The entries of a palette. -/
inductive Slot where
  | primary
  | secondary
  | accent
  | text
  | muted
  deriving DecidableEq, Repr

namespace Slot

def name : Slot → String
  | .primary => "primary"
  | .secondary => "secondary"
  | .accent => "accent"
  | .text => "text"
  | .muted => "muted"

/-- What an entry is called where it was changed. -/
def subject (banner : Bool) : Slot → String
  | .primary => Palette.primarySubject banner
  | slot => slot.name

/-- The order in which changes are told. -/
def told : List Slot := [.primary, .text, .muted, .accent, .secondary]

end Slot

namespace Palette

variable {α : Type}

def entry (p : Palette α) : Slot → α
  | .primary => p.primary
  | .secondary => p.secondary
  | .accent => p.accent
  | .text => p.text
  | .muted => p.muted

def ofEntries (f : Slot → α) : Palette α :=
  ⟨f .primary, f .secondary, f .accent, f .text, f .muted⟩

@[simp] theorem entry_ofEntries (f : Slot → α) (slot : Slot) :
    (ofEntries f).entry slot = f slot := by
  cases slot <;> rfl

end Palette

/-- How colours look, from 0 for black to 1 for white, and how they are mixed. -/
structure Optics where
  luminance : Color → ℚ
  mixing : Mixing

namespace Optics

/-- The luminance and the mixing of documents. -/
def standard : Optics := ⟨fun c => c.luminance / fullLuminance, .binary⟩

variable (o : Optics)

def contrast (a b : Color) : ℚ :=
  (max (o.luminance a) (o.luminance b) + 1 / 20) / (min (o.luminance a) (o.luminance b) + 1 / 20)

/-- Dark text on backgrounds lighter than 0.4, white text on the others. -/
def textOn (background : Color) : Color :=
  if 2 / 5 < o.luminance background then Color.darkText else white

/-- What each entry of a palette is to be: text and headings stand out from white, and so, a little
less, do muted labels and accents, and `secondary` is light. -/
def OnTarget (c : Color) : Slot → Prop
  | .primary | .text => 9 / 2 ≤ o.contrast c white
  | .muted | .accent => 3 ≤ o.contrast c white
  | .secondary => 1 / 2 < o.luminance c

instance (c : Color) (slot : Slot) : Decidable (o.OnTarget c slot) := by
  cases slot <;> unfold OnTarget <;> infer_instance

/-- The first step towards black or white that stands out from white, or else a fixed colour. -/
def firstReadable (minimum : ℚ) (c : Color) : Color :=
  let isLight := 1 / 2 < o.luminance white
  let step := fun percent => if isLight then o.mixing.darken percent c else o.mixing.tint percent c
  match Color.adjustmentSteps.find? fun percent => minimum ≤ o.contrast (step percent) white with
  | some percent => step percent
  | none => if isLight then fallbackDark else white

/-- What becomes of a colour that is not what it is to be. -/
def replacement (banner : Bool) (c : Color) : Slot → Color
  | .primary =>
    if banner then
      if 9 / 2 ≤ o.contrast (o.mixing.darken 40 c) white then o.mixing.darken 40 c
      else fallbackBanner
    else o.firstReadable (9 / 2) c
  | .text => o.firstReadable (9 / 2) c
  | .muted | .accent => o.firstReadable 3 c
  | .secondary => o.mixing.tint 80 c

def change? (banner : Bool) (c : Color) (slot : Slot) : Option Color :=
  if o.OnTarget c slot then none else some (o.replacement banner c slot)

/-- Repairs a palette entry by entry. -/
def repair (banner : Bool) (p : Palette Swatch) : Palette Swatch × List PaletteFix :=
  let changed := fun slot =>
    (p.entry slot).change (slot.subject banner) (o.change? banner (p.entry slot).color slot)
  (.ofEntries fun slot => (changed slot).1, Slot.told.flatMap fun slot => (changed slot).2)

/-! Luminances -/

/-- Black, white, and the fixed colours of the program: text on light backgrounds, the two last
resorts, and the least that four fifths of white leave of any colour. -/
def landmarks : List Color :=
  [Color.black, white, Color.darkText, fallbackDark, fallbackBanner, Color.rgb 204 204 204]

/-- A luminance that does not fall in any channel and is the usual one at the landmarks. -/
structure IsPlausible : Prop where
  red : ∀ (c : Color) (v : Channel), c.red ≤ v → o.luminance c ≤ o.luminance { c with red := v }
  green : ∀ (c : Color) (v : Channel), c.green ≤ v →
    o.luminance c ≤ o.luminance { c with green := v }
  blue : ∀ (c : Color) (v : Channel), c.blue ≤ v → o.luminance c ≤ o.luminance { c with blue := v }
  landmark : ∀ c ∈ landmarks, o.luminance c = standard.luminance c

/-! Documents -/

/-- The table of the light in a channel rises. -/
theorem linearLight_isChain : Color.linearLight.toList.IsChain (· ≤ ·) := by decide +kernel

theorem light_monotone : Monotone Color.light := by
  have size : Color.linearLight.toList.length = 256 := by decide +kernel
  have rises := List.pairwise_iff_getElem.mp (List.isChain_iff_pairwise.mp linearLight_isChain)
  have entry (c : Channel) : Color.light c = Color.linearLight.toList.get (c.cast size.symm) := by
    rw [Color.light, Array.getD_eq_getD_getElem?, ← Array.getElem?_toList,
      List.getElem?_eq_getElem (by rw [size]; exact c.isLt)]
    rfl
  intro a b le
  rw [entry, entry]
  rcases eq_or_lt_of_le le with rfl | less
  · exact le_rfl
  · exact rises _ _ _ _ less

theorem fullLuminance_pos : (0 : ℚ) < fullLuminance := by
  norm_num [fullLuminance]

theorem isPlausible_standard : standard.IsPlausible := by
  have rises {a b : Color} (h : a.luminance ≤ b.luminance) :
      standard.luminance a ≤ standard.luminance b :=
    div_le_div_of_nonneg_right (Nat.cast_le.mpr h) fullLuminance_pos.le
  refine ⟨fun c v h => rises ?_, fun c v h => rises ?_, fun c v h => rises ?_, fun _ _ => rfl⟩
  all_goals
    have more := light_monotone h
    unfold Color.luminance
    dsimp only
    omega

theorem fullLuminance_eq : fullLuminance = 20 * Color.glare := by decide +kernel

theorem glare_pos : (0 : ℚ) < Color.glare := by
  have positive : 0 < Color.glare := by decide +kernel
  exact_mod_cast positive

/-- Luminances are whole numbers of units, and so are both sides of a contrast. -/
theorem contrast_standard (a b : Color) :
    standard.contrast a b = ((Color.contrast a b).1 : ℚ) / ((Color.contrast a b).2 : ℚ) := by
  have full : (fullLuminance : ℚ) = 20 * Color.glare := by exact_mod_cast fullLuminance_eq
  have units (n : ℚ) : n / fullLuminance + 1 / 20 = (Color.glare + n) / fullLuminance := by
    have positive := glare_pos
    rw [full]
    field_simp
    rw [add_comm]
  have luminance (c : Color) : standard.luminance c = c.luminance / fullLuminance := rfl
  rw [contrast, luminance, luminance, max_div_div_right fullLuminance_pos.le,
    min_div_div_right fullLuminance_pos.le, units, units,
    div_div_div_cancel_right₀ fullLuminance_pos.ne']
  simp only [Color.contrast, Nat.cast_add, Nat.cast_max, Nat.cast_min]

/-- Contrasts are compared without dividing. -/
theorem le_contrast_standard (a b : Color) (minimum : Color.Threshold) :
    (minimum.tenths / 10 : ℚ) ≤ standard.contrast a b ↔ Color.contrastAtLeast a b minimum := by
  have positive : (0 : ℚ) < (Color.contrast a b).2 := by
    simp only [Color.contrast, Nat.cast_add]
    exact add_pos_of_pos_of_nonneg glare_pos (Nat.cast_nonneg _)
  rw [contrast_standard, le_div_iff₀ positive, div_mul_eq_mul_div, div_le_iff₀ (by norm_num),
    Color.contrastAtLeast, decide_eq_true_eq, mul_comm _ (10 : ℚ)]
  exact_mod_cast Iff.rfl

theorem lt_luminance_standard (c : Color) : 1 / 2 < standard.luminance c ↔ c.isLight := by
  rw [standard, lt_div_iff₀ fullLuminance_pos, Color.isLight, decide_eq_true_eq,
    div_mul_eq_mul_div, one_mul, div_lt_iff₀ (by norm_num), mul_comm (c.luminance : ℚ)]
  exact_mod_cast Iff.rfl

theorem textOn_standard (c : Color) : standard.textOn c = c.textOn := by
  have lighter : 2 / 5 < standard.luminance c ↔ 4 * fullLuminance < 10 * c.luminance := by
    rw [standard, lt_div_iff₀ fullLuminance_pos]
    constructor
    · intro h
      have : (4 * fullLuminance : ℚ) < 10 * c.luminance := by linarith
      exact_mod_cast this
    · intro h
      have : (4 * fullLuminance : ℚ) < 10 * c.luminance := by exact_mod_cast h
      linarith
  rw [textOn, Color.textOn]
  simp only [lighter]

theorem textContrast_eq : ((Color.textContrast.tenths : ℚ) / 10) = 9 / 2 := by
  norm_num [Color.textContrast]

theorem labelContrast_eq : ((Color.labelContrast.tenths : ℚ) / 10) = 3 := by
  norm_num [Color.labelContrast]

theorem firstReadable_standard (minimum : Color.Threshold) {c : Color}
    (unreadable : ¬ Color.contrastAtLeast c white minimum) :
    standard.firstReadable (minimum.tenths / 10) c = Color.readableOnWhite minimum c := by
  have light : 1 / 2 < standard.luminance white :=
    (lt_luminance_standard white).mpr Color.isLight_white
  have darken (percent : Nat) : standard.mixing.darken percent c = c.darkenBy percent := rfl
  rw [firstReadable, Color.readableOnWhite, Color.readableOn, if_neg unreadable]
  cases found : List.find?
    (fun percent => Color.contrastAtLeast (c.darkenBy percent) white minimum) Color.adjustmentSteps
  all_goals
    simp only [light, Color.isLight_white, if_true, darken, le_contrast_standard,
      Bool.decide_eq_true, found]

theorem onTarget_primary (c : Color) :
    standard.OnTarget c .primary ↔ Color.contrastAtLeast c white Color.textContrast := by
  rw [← le_contrast_standard, textContrast_eq, OnTarget]

theorem onTarget_muted (c : Color) :
    standard.OnTarget c .muted ↔ Color.contrastAtLeast c white Color.labelContrast := by
  rw [← le_contrast_standard, labelContrast_eq, OnTarget]

/-- An entry that is text of some kind changes as text does. -/
theorem change?_standard {banner : Bool} {c : Color} {slot : Slot} {minimum : Color.Threshold}
    (target : standard.OnTarget c slot ↔ Color.contrastAtLeast c white minimum)
    (replaced : standard.replacement banner c slot = standard.firstReadable (minimum.tenths / 10) c) :
    standard.change? banner c slot = Color.fixedText? minimum c := by
  rw [change?, Color.fixedText?]
  by_cases readable : Color.contrastAtLeast c white minimum
  · rw [if_pos (target.mpr readable), if_pos readable]
  · rw [if_neg (mt target.mp readable), if_neg readable, replaced,
      firstReadable_standard minimum readable]

theorem change?_text (banner : Bool) (c : Color) :
    standard.change? banner c .text = Color.fixedText? Color.textContrast c :=
  change?_standard (onTarget_primary c) (by rw [textContrast_eq, replacement])

theorem change?_muted (banner : Bool) (c : Color) :
    standard.change? banner c .muted = Color.fixedText? Color.labelContrast c :=
  change?_standard (onTarget_muted c) (by rw [labelContrast_eq, replacement])

theorem change?_primary (banner : Bool) (c : Color) :
    standard.change? banner c .primary = Color.fixedPrimary? banner c := by
  cases banner with
  | false =>
    exact change?_standard (onTarget_primary c)
      (by rw [textContrast_eq, replacement, if_neg Bool.false_ne_true])
  | true =>
    have darker := onTarget_primary (c.darkenBy 40)
    have same : standard.mixing.darken 40 c = c.darkenBy 40 := rfl
    rw [OnTarget] at darker
    rw [change?, Color.fixedPrimary?, replacement, same]
    simp only [onTarget_primary, darker, if_true]

theorem change?_secondary (banner : Bool) (c : Color) :
    standard.change? banner c .secondary = Color.fixedSecondary? c := by
  have target : standard.OnTarget c .secondary ↔ c.isLight := lt_luminance_standard c
  rw [change?, Color.fixedSecondary?]
  simp only [target]
  rfl

/-- Documents repair their palettes like this. -/
theorem repair_standard (banner : Bool) (p : Palette Swatch) :
    standard.repair banner p = Palette.repair banner p := by
  have accent : standard.change? banner p.accent.color .accent
      = Color.fixedText? Color.labelContrast p.accent.color := change?_muted banner _
  simp only [repair, Palette.repair, Palette.ofEntries, Palette.entry, Slot.told, Slot.subject,
    Slot.name, change?_primary, change?_text, change?_muted, accent, change?_secondary,
    List.flatMap_cons, List.flatMap_nil, List.append_nil, List.append_assoc]

end Optics

end Vitae
