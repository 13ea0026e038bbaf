import Vitae.Color.Palette

/-!
Readable palettes. Repairing a palette makes it readable on the white page, and a readable palette
is left alone, so there is nothing to repair a second time.
-/

namespace Vitae

namespace Color

/-- Whatever steps are tried, the result is readable if the last resort is. -/
theorem isReadable_readableOn {background : Color} {isReadable : Color → Bool}
    (resort : isReadable (if background.isLight then fallbackDark else white)) (c : Color) :
    isReadable (readableOn background isReadable c) := by
  simp only [readableOn]
  split
  · next readable => exact readable
  · split
    · next percent found => simpa using List.find?_some found
    · exact resort

theorem isLight_white : white.isLight := by decide +kernel

theorem contrastAtLeast_readableOnWhite {minimum : Threshold}
    (resort : contrastAtLeast fallbackDark white minimum) (c : Color) :
    contrastAtLeast (readableOnWhite minimum c) white minimum := by
  let isReadable (c : Color) : Bool := contrastAtLeast c white minimum
  have last : isReadable (if white.isLight then fallbackDark else white) := by
    rw [if_pos isLight_white]
    exact resort
  exact isReadable_readableOn last c

theorem fixedText?_of_contrastAtLeast {minimum : Threshold} {c : Color}
    (readable : contrastAtLeast c white minimum) : fixedText? minimum c = none := by
  rw [fixedText?, if_pos readable]

theorem contrastAtLeast_fixedText {minimum : Threshold}
    (resort : contrastAtLeast fallbackDark white minimum) (c : Color) :
    contrastAtLeast ((fixedText? minimum c).getD c) white minimum := by
  by_cases readable : contrastAtLeast c white minimum
  · rw [fixedText?_of_contrastAtLeast readable, Option.getD_none]
    exact readable
  · rw [fixedText?, if_neg readable, Option.getD_some]
    exact contrastAtLeast_readableOnWhite resort c

theorem fixedPrimary?_of_contrastAtLeast {c : Color} (readable : contrastAtLeast c white textContrast)
    (banner : Bool) : fixedPrimary? banner c = none := by
  rw [fixedPrimary?, if_pos readable]

/-- Behind a banner or not, what `primary` becomes stands out from white. -/
theorem contrastAtLeast_fixedPrimary (banner : Bool) (c : Color) :
    contrastAtLeast ((fixedPrimary? banner c).getD c) white textContrast := by
  by_cases readable : contrastAtLeast c white textContrast
  · rw [fixedPrimary?_of_contrastAtLeast readable, Option.getD_none]
    exact readable
  · rw [fixedPrimary?, if_neg readable]
    cases banner with
    | false =>
      rw [if_neg Bool.false_ne_true, Option.getD_some]
      exact contrastAtLeast_readableOnWhite (by decide +kernel) c
    | true =>
      rw [if_pos rfl, Option.getD_some]
      by_cases darker : contrastAtLeast (darkenBy 40 c) white textContrast
      · rw [if_pos darker]
        exact darker
      · rw [if_neg darker]
        decide +kernel

/-- Four fifths of white bring every channel to the light end. -/
theorem le_tintChannel (v : Channel) :
    204 ≤ (roundToChannel (tintChannel (perCent 80) v.val)).val := by
  revert v
  decide +kernel

/-- The light end has more than half of full light. -/
theorem lt_light {v : Channel} (h : 204 ≤ v.val) : 50000000000000000000 < light v := by
  revert v
  decide +kernel

theorem isLight_of_le {c : Color} (red : 204 ≤ c.red.val) (green : 204 ≤ c.green.val)
    (blue : 204 ≤ c.blue.val) : c.isLight := by
  have red := lt_light red
  have green := lt_light green
  have blue := lt_light blue
  rw [isLight, decide_eq_true_eq, luminance, fullLuminance]
  omega

theorem isLight_tintBy (c : Color) : (tintBy 80 c).isLight :=
  isLight_of_le (le_tintChannel c.red) (le_tintChannel c.green) (le_tintChannel c.blue)

theorem fixedSecondary?_of_isLight {c : Color} (light : c.isLight) : fixedSecondary? c = none := by
  rw [fixedSecondary?, if_pos light]

theorem isLight_fixedSecondary (c : Color) : ((fixedSecondary? c).getD c).isLight := by
  by_cases light : c.isLight
  · rw [fixedSecondary?_of_isLight light, Option.getD_none]
    exact light
  · rw [fixedSecondary?, if_neg light, Option.getD_some]
    exact isLight_tintBy c

end Color

theorem Swatch.color_change (s : Swatch) (subject : String) (change : Option Color) :
    (s.change subject change).1.color = change.getD s.color := by
  cases change <;> rfl

namespace Palette

open Color (contrastAtLeast white textContrast labelContrast)

/-- Palettes that can be read on the white page, or be written on in white where they are to. -/
structure IsReadable (p : Palette Color) : Prop where
  primary : contrastAtLeast p.primary white textContrast
  secondary : p.secondary.isLight
  accent : contrastAtLeast p.accent white labelContrast
  text : contrastAtLeast p.text white textContrast
  muted : contrastAtLeast p.muted white labelContrast

theorem map_color_repair (banner : Bool) (p : Palette Swatch) :
    (repair banner p).1.map Swatch.color =
      { primary := (Color.fixedPrimary? banner p.primary.color).getD p.primary.color
        secondary := (Color.fixedSecondary? p.secondary.color).getD p.secondary.color
        accent := (Color.fixedText? labelContrast p.accent.color).getD p.accent.color
        text := (Color.fixedText? textContrast p.text.color).getD p.text.color
        muted := (Color.fixedText? labelContrast p.muted.color).getD p.muted.color } := by
  unfold repair
  simp only [map, Swatch.color_change]

/-- Repair makes every palette readable, whatever the header is. -/
theorem isReadable_repair (banner : Bool) (p : Palette Swatch) :
    ((repair banner p).1.map Swatch.color).IsReadable := by
  have text : contrastAtLeast Color.fallbackDark white textContrast := by decide +kernel
  have label : contrastAtLeast Color.fallbackDark white labelContrast := by decide +kernel
  rw [map_color_repair]
  constructor <;> dsimp only
  · exact Color.contrastAtLeast_fixedPrimary banner p.primary.color
  · exact Color.isLight_fixedSecondary p.secondary.color
  · exact Color.contrastAtLeast_fixedText label p.accent.color
  · exact Color.contrastAtLeast_fixedText text p.text.color
  · exact Color.contrastAtLeast_fixedText label p.muted.color

/-- There is nothing to repair in a readable palette. -/
theorem repair_of_isReadable {p : Palette Swatch} (h : (p.map Swatch.color).IsReadable)
    (banner : Bool) : repair banner p = (p, []) := by
  obtain ⟨primary, secondary, accent, text, muted⟩ := h
  simp only [map] at primary secondary accent text muted
  unfold repair
  rw [Color.fixedPrimary?_of_contrastAtLeast primary, Color.fixedText?_of_contrastAtLeast text,
    Color.fixedText?_of_contrastAtLeast muted, Color.fixedText?_of_contrastAtLeast accent,
    Color.fixedSecondary?_of_isLight secondary]
  rfl

end Palette

end Vitae
