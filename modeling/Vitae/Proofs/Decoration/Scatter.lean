import Vitae.Decoration
import Vitae.Proofs.Fault
import Vitae.Proofs.Random.Draw
import Vitae.Proofs.Text.Points

/-!
Decorations stay within their tables. How many there are, what they are and where they are is
bounded by the intensity and the theme, and it depends on nothing of the palette but its three
seeding colours, which have to have UTF-8 forms.
-/

namespace Vitae

open Decimal (Binary64)
open Text (Points)
open Draw (Meets meets_below meets_between meets_choice meets_fraction meets_pure meets_uniform)

namespace Decoration

/-! Places -/

/-- A number of per cent. -/
structure IsPercent (x : Binary64) : Prop where
  least : Binary64.zero.le x
  most : x.le (Binary64.ofInt 100)

theorem le_of_lt {x y : Binary64} (h : x.lt y) : x.le y := by
  rw [Binary64.lt, Bool.and_eq_true] at h
  exact h.1

/-- What is clamped is a number of per cent, even if it was no number at all. -/
theorem isPercent_clampPercent (x : Binary64) : IsPercent (clampPercent x) := by
  have least : Binary64.zero.le (if Binary64.zero.lt x then x else Binary64.zero) := by
    split
    · next above => exact le_of_lt above
    · decide
  unfold clampPercent
  generalize (if Binary64.zero.lt x then x else Binary64.zero) = low at least
  dsimp only
  split
  · next below => exact ⟨least, le_of_lt below⟩
  · exact ⟨by decide +kernel, by decide +kernel⟩

theorem meets_drawPlace (low high : Int) : Meets (drawPlace low high) IsPercent :=
  (meets_uniform low high).bind fun _ _ => (meets_uniform (-5) 5).bind fun _ _ =>
    meets_pure (isPercent_clampPercent _)

/-! Seeding colours -/

/-- Half of a surrogate pair stands alone in a seeding colour. -/
def hasHalfSeed (palette : Palette Points) : Bool :=
  palette.primary.hasHalf || palette.accent.hasHalf || palette.secondary.hasHalf

variable {palette : Palette Points} {colors : SeedColors}

/-- Colours that are seeded with are those of the palette. -/
theorem seedColors_eq_ok_iff : SeedColors.of palette = .ok colors
    ↔ palette.primary = colors.primary ∧ palette.accent = colors.accent
      ∧ palette.secondary = colors.secondary := by
  obtain ⟨primary, accent, secondary⟩ := colors
  simp only [SeedColors.of, Checked.bind_eq_ok, Points.encodable_eq_ok_iff, pure, Except.pure,
    Except.ok.injEq, SeedColors.mk.injEq]
  constructor
  · rintro ⟨_, first, _, second, _, third, rfl, rfl, rfl⟩
    exact ⟨first, second, third⟩
  · rintro ⟨first, second, third⟩
    exact ⟨_, first, _, second, _, third, rfl, rfl, rfl⟩

theorem exists_seedColors (whole : hasHalfSeed palette = false) :
    ∃ colors, SeedColors.of palette = .ok colors := by
  simp only [hasHalfSeed, Bool.or_eq_false_iff] at whole
  obtain ⟨primary, first⟩ := Points.exists_chars whole.1.1
  obtain ⟨accent, second⟩ := Points.exists_chars whole.1.2
  obtain ⟨secondary, third⟩ := Points.exists_chars whole.2
  exact ⟨⟨primary, accent, secondary⟩, seedColors_eq_ok_iff.mpr ⟨first, second, third⟩⟩

theorem seedColors_of_hasHalfSeed (half : hasHalfSeed palette) :
    SeedColors.of palette = .error (.misuse .unencodable) := by
  have fails : Checked.FailsBy (· = .misuse .unencodable) (SeedColors.of palette) :=
    palette.primary.failsBy_encodable.bind fun _ => palette.accent.failsBy_encodable.bind fun _ =>
      palette.secondary.failsBy_encodable.bind fun _ => Checked.failsBy_ok _
  cases seeded : SeedColors.of palette with
  | ok colors =>
    obtain ⟨primary, accent, secondary⟩ := seedColors_eq_ok_iff.mp seeded
    simp [hasHalfSeed, primary, accent, secondary, Points.hasHalf] at half
  | error fault => rw [fails fault seeded]

/-! Single shapes -/

/-- A decoration that is within the tables of its intensity and its theme and has a colour of its
palette. -/
structure IsWithin (palette : Palette Points) (intensity : DecorationIntensity)
    (theme : DecorationTheme) (d : Decoration) : Prop where
  shape : d.shape ∈ theme.shapes
  size : (intensity.sizes.least : Int) ≤ d.size ∧ d.size ≤ intensity.sizes.most
  rotation : 0 ≤ d.rotation ∧ d.rotation < 360
  x : IsPercent d.x
  y : IsPercent d.y
  color : palette.primary = d.color ∨ palette.accent = d.color

variable {intensity : DecorationIntensity} {theme : DecorationTheme}

theorem sizes_ordered (intensity : DecorationIntensity) :
    intensity.sizes.least ≤ intensity.sizes.most ∧ intensity.sizes.most < 2 ^ 31 := by
  cases intensity <;> decide

theorem counts_ordered (intensity : DecorationIntensity) :
    intensity.counts.least ≤ intensity.counts.most ∧ intensity.counts.most < 2 ^ 31 := by
  cases intensity <;> decide

theorem shapes_ne_nil (theme : DecorationTheme) :
    theme.shapes ≠ [] ∧ theme.shapes.length < 2 ^ 32 := by
  cases theme <;> decide

theorem meets_drawOne (seeded : SeedColors.of palette = .ok colors) :
    Meets (drawOne colors.primary colors.accent intensity.sizes theme.shapes)
      (IsWithin palette intensity theme) := by
  obtain ⟨some, few⟩ := shapes_ne_nil theme
  obtain ⟨ordered, small⟩ := sizes_ordered intensity
  obtain ⟨primary, accent, -⟩ := seedColors_eq_ok_iff.mp seeded
  refine (meets_choice (by decide) (by decide) _).bind fun zone _ =>
    (meets_drawPlace _ _).bind fun x onX => (meets_drawPlace _ _).bind fun y onY =>
    (meets_choice some few _).bind fun shape known =>
    (meets_between ordered small).bind fun size sized =>
    (meets_below (by decide) (by decide)).bind fun rotation turned =>
    (meets_choice (by simp) (by simp) _).bind fun color painted =>
    meets_fraction.bind fun light _ => meets_pure ?_
  have own : palette.primary = color ∨ palette.accent = color := by
    rcases List.mem_pair.mp painted with rfl | rfl
    · exact .inl primary
    · exact .inr accent
  exact {
    shape := known
    size := ⟨Int.ofNat_le.mpr sized.1, Int.ofNat_le.mpr sized.2⟩
    rotation := ⟨Int.natCast_nonneg rotation, Int.ofNat_lt.mpr turned⟩
    x := onX
    y := onY
    color := own }

/-! All shapes -/

theorem length_drawMany (one : Draw Decoration) (count : Nat) (t : Twister) :
    (drawMany one count t).1.length = count := by
  induction count generalizing t with
  | zero => rfl
  | succ count ih => exact congrArg (· + 1) (ih _)

theorem meets_drawMany {one : Draw Decoration} {property : Decoration → Prop}
    (each : Meets one property) (count : Nat) :
    Meets (drawMany one count) fun decorations => ∀ d ∈ decorations, property d := by
  induction count with
  | zero => exact meets_pure (by simp)
  | succ count ih =>
    refine each.bind fun first holds => ih.bind fun rest others => meets_pure ?_
    simpa using ⟨holds, others⟩

section Scatter

variable (colors : SeedColors) (intensity : DecorationIntensity) (theme : DecorationTheme)

/-- The shapes in the order in which they are drawn. -/
def scatter : Draw (List Decoration) := do
  let count ← Draw.between intensity.counts.least intensity.counts.most
  drawMany (drawOne colors.primary colors.accent intensity.sizes theme.shapes) count

theorem scatter_apply (t : Twister) : scatter colors intensity theme t
    = drawMany (drawOne colors.primary colors.accent intensity.sizes theme.shapes)
      (Draw.between intensity.counts.least intensity.counts.most t).1
      (Draw.between intensity.counts.least intensity.counts.most t).2 := rfl

/-- As many shapes are drawn as the first number says, for which no theme is asked. -/
theorem length_scatter (t : Twister) : (scatter colors intensity theme t).1.length
    = (Draw.between intensity.counts.least intensity.counts.most t).1 := by
  rw [scatter_apply, length_drawMany]

variable {colors} in
theorem meets_scatter (seeded : SeedColors.of palette = .ok colors) :
    Meets (scatter colors intensity theme) fun decorations =>
      (intensity.counts.least ≤ decorations.length ∧ decorations.length ≤ intensity.counts.most)
        ∧ ∀ d ∈ decorations, IsWithin palette intensity theme d := by
  obtain ⟨ordered, small⟩ := counts_ordered intensity
  intro t sound
  have drawn : Meets (scatter colors intensity theme) fun decorations =>
      ∀ d ∈ decorations, IsWithin palette intensity theme d :=
    (meets_between ordered small).bind fun count _ => meets_drawMany (meets_drawOne seeded) count
  obtain ⟨within, left⟩ := drawn t sound
  refine ⟨⟨?_, within⟩, left⟩
  rw [length_scatter]
  exact (meets_between ordered small t sound).1

theorem drawAll_apply (t : Twister) : (colors.drawAll intensity theme).run t
    = Draw.shuffle (scatter colors intensity theme t).1 (scatter colors intensity theme t).2 := rfl

/-- The shapes that are drawn for seeding colours, and the twister that is left to shuffle them. -/
def scattered : List Decoration × Twister :=
  scatter colors intensity theme (Twister.ofSeed colors.seed)

variable {colors} in
theorem scattered_spec (seeded : SeedColors.of palette = .ok colors) :
    (intensity.counts.least ≤ (scattered colors intensity theme).1.length
      ∧ (scattered colors intensity theme).1.length ≤ intensity.counts.most)
    ∧ ∀ d ∈ (scattered colors intensity theme).1, IsWithin palette intensity theme d := by
  rw [scattered]
  exact (meets_scatter intensity theme seeded _ (Twister.isSound_ofSeed _)).1

/-- The decorations are the shapes that are drawn, shuffled. -/
theorem decorations_eq_shuffle : colors.decorations intensity theme
    = (Draw.shuffle (scattered colors intensity theme).1
        (scattered colors intensity theme).2).1 := by
  rw [SeedColors.decorations]
  split
  · next none =>
    have many : Meets (Draw.between intensity.counts.least intensity.counts.most) _ :=
      meets_between (counts_ordered intensity).1 (counts_ordered intensity).2
    have most := (many (Twister.ofSeed colors.seed) (Twister.isSound_ofSeed _)).1.2
    rw [← length_scatter colors intensity theme, none, Nat.le_zero, List.length_eq_zero_iff] at most
    rw [scattered, most]
    exact (Draw.shuffle_perm [] _).eq_nil.symm
  · rw [drawAll_apply, scattered]

theorem decorations_perm :
    (colors.decorations intensity theme).Perm (scattered colors intensity theme).1 := by
  rw [decorations_eq_shuffle]
  exact Draw.shuffle_perm _ _

theorem length_decorations (other : DecorationTheme) :
    (colors.decorations intensity other).length = (colors.decorations intensity theme).length := by
  rw [(decorations_perm colors intensity other).length_eq,
    (decorations_perm colors intensity theme).length_eq, scattered, scattered, length_scatter,
    length_scatter]

end Scatter

/-! Palettes -/

theorem most_eq_zero_iff : intensity.counts.most = 0 ↔ intensity = .none := by
  cases intensity <;> decide

/-- What is generated for colours that can be seeded with. -/
theorem generate_of_seedColors (seeded : SeedColors.of palette = .ok colors)
    (intensity : DecorationIntensity) (theme : DecorationTheme) :
    generate palette intensity theme = .ok (colors.decorations intensity theme) := by
  unfold generate
  split
  · next none => rw [SeedColors.decorations, if_pos none]
  · rw [Checked.bind_of_ok seeded]
    rfl

theorem generate_none (palette : Palette Points) (theme : DecorationTheme) :
    generate palette .none theme = .ok [] := rfl

theorem generate_of_hasHalfSeed (half : hasHalfSeed palette) (some : intensity ≠ .none)
    (theme : DecorationTheme) :
    generate palette intensity theme = .error (.misuse .unencodable) := by
  rw [generate, if_neg (mt most_eq_zero_iff.mp some),
    Checked.bind_of_error (seedColors_of_hasHalfSeed half)]

/-- Palettes whose seeding colours are the same have the same decorations. -/
theorem generate_congr {other : Palette Points} (primary : other.primary = palette.primary)
    (accent : other.accent = palette.accent) (secondary : other.secondary = palette.secondary)
    (intensity : DecorationIntensity) (theme : DecorationTheme) :
    generate other intensity theme = generate palette intensity theme := by
  simp only [generate, SeedColors.of, primary, accent, secondary]

/-- Decorations stay within their tables, for every palette of any texts, unless there are to be
some and half of a surrogate pair stands alone in a seeding colour, which is refused. Every number
they are drawn with is found by a loop that ends. There are as many as the intensity allows,
whatever the theme is, and each has a shape of the theme, a size of the intensity, a rotation below
a full turn, a place on the page and the primary or the accent colour. What is not a seeding colour
has no part in them, and in the end the shapes that were drawn are only put in another order. -/
theorem decorations_stay_within_tables (palette : Palette Points)
    (intensity : DecorationIntensity) (theme : DecorationTheme) :
    (∀ (t : Twister) (bound : Nat), t.IsSound → 0 < bound → bound < 2 ^ 32 →
        Draw.Settles bound t (Draw.below bound t).1 (Draw.below bound t).2)
      ∧ (intensity ≠ .none → hasHalfSeed palette →
        generate palette intensity theme = .error (.misuse .unencodable))
      ∧ (∀ other : Palette Points, other.primary = palette.primary →
        other.accent = palette.accent → other.secondary = palette.secondary →
          generate other intensity theme = generate palette intensity theme)
      ∧ (intensity = .none ∨ hasHalfSeed palette = false →
        ∃ decorations, generate palette intensity theme = .ok decorations
          ∧ intensity.counts.least ≤ decorations.length
          ∧ decorations.length ≤ intensity.counts.most
          ∧ (∀ d ∈ decorations, IsWithin palette intensity theme d)
          ∧ (∀ other : DecorationTheme, ∃ others, generate palette intensity other = .ok others
            ∧ others.length = decorations.length)
          ∧ ∀ colors, SeedColors.of palette = .ok colors →
            decorations = (Draw.shuffle (scattered colors intensity theme).1
                (scattered colors intensity theme).2).1
              ∧ decorations.Perm (scattered colors intensity theme).1) := by
  refine ⟨fun t bound sound some small => Draw.settles_below some small sound,
    fun some half => generate_of_hasHalfSeed half some theme,
    fun other primary accent secondary =>
      generate_congr primary accent secondary intensity theme, fun drawn => ?_⟩
  have shuffled (colors : SeedColors) := And.intro (decorations_eq_shuffle colors intensity theme)
    (decorations_perm colors intensity theme)
  cases half : hasHalfSeed palette with
  | false =>
    obtain ⟨colors, seeded⟩ := exists_seedColors half
    obtain ⟨⟨least, most⟩, within⟩ := scattered_spec intensity theme seeded
    have perm := (shuffled colors).2
    rw [← perm.length_eq] at least most
    refine ⟨_, generate_of_seedColors seeded intensity theme, least, most,
      fun d mem => within d (perm.mem_iff.mp mem), fun other =>
        ⟨_, generate_of_seedColors seeded intensity other,
          length_decorations colors intensity theme other⟩, fun own same => ?_⟩
    obtain rfl := Except.ok.inj (seeded.symm.trans same)
    exact shuffled colors
  | true =>
    obtain rfl := drawn.resolve_right (by simp [half])
    refine ⟨[], generate_none palette theme, Nat.le_refl 0, Nat.le_refl 0, by simp, fun other =>
      ⟨[], generate_none palette other, rfl⟩, fun colors seeded => ?_⟩
    rw [seedColors_of_hasHalfSeed half] at seeded
    cases seeded

/-- Two palettes that differ in what is not a seeding colour, and a number that is drawn first. -/
theorem decorations_stay_within_tables_recoloured :
    generate ⟨"teal", "navy", "coral", "black", "grey"⟩ .minimal .organic
        = generate ⟨"teal", "navy", "coral", "ink", .halved "" 0 ""⟩ .minimal .organic
      ∧ (∃ decorations, generate ⟨"teal", "navy", "coral", "ink", .halved "" 0 ""⟩ .minimal .organic
          = .ok decorations ∧ 4 ≤ decorations.length ∧ decorations.length ≤ 8)
      ∧ generate ⟨.halved "" 0 "", "navy", "coral", "black", "grey"⟩ .minimal .organic
        = .error (.misuse .unencodable)
      ∧ Draw.Settles 360 (Twister.ofSeed 7) (Draw.below 360 (Twister.ofSeed 7)).1
        (Draw.below 360 (Twister.ofSeed 7)).2 := by
  obtain ⟨settles, -, same, drawn⟩ := decorations_stay_within_tables
    ⟨"teal", "navy", "coral", "ink", .halved "" 0 ""⟩ .minimal .organic
  obtain ⟨decorations, made, least, most, -⟩ := drawn (.inr (by decide))
  obtain ⟨-, refused, -⟩ := decorations_stay_within_tables
    ⟨.halved "" 0 "", "navy", "coral", "black", "grey"⟩ .minimal .organic
  exact ⟨same ⟨"teal", "navy", "coral", "black", "grey"⟩ rfl rfl rfl,
    ⟨decorations, made, least, most⟩, refused (by decide) (by decide),
    settles (Twister.ofSeed 7) 360 (Twister.isSound_ofSeed 7) (by decide) (by decide)⟩

/-- Not every palette of texts has decorations. -/
theorem decorations_of_half :
    ¬ ∀ (palette : Palette Points) (intensity : DecorationIntensity) (theme : DecorationTheme),
      ∃ decorations, generate palette intensity theme = .ok decorations := by
  intro every
  obtain ⟨decorations, made⟩ :=
    every ⟨.halved "" 0 "", "navy", "coral", "black", "grey"⟩ .minimal .organic
  rw [generate_of_hasHalfSeed (by decide) (by decide)] at made
  cases made

end Decoration

end Vitae
