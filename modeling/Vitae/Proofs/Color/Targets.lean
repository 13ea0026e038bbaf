import Vitae.Proofs.Color
import Vitae.Proofs.Color.Optics
import Vitae.Proofs.Fault
import Vitae.Proofs.Json

/-!
What repair comes to. Whatever luminance and mixing there is, every entry of a repaired palette is
what it is to be, the entries that were so are left alone, what is told is what changed, and there
is nothing to repair a second time.
-/

namespace Vitae

open Color (black fallbackBanner fallbackDark white)

/-! Targets -/

namespace Optics.IsPlausible

variable {o : Optics} {c : Color} {minimum : ℚ}

theorem mono (h : o.IsPlausible) {a b : Color} (red : a.red ≤ b.red) (green : a.green ≤ b.green)
    (blue : a.blue ≤ b.blue) : o.luminance a ≤ o.luminance b :=
  calc o.luminance a
    _ ≤ o.luminance { a with red := b.red } := h.red a b.red red
    _ ≤ o.luminance { a with red := b.red, green := b.green } := h.green _ b.green green
    _ ≤ o.luminance b := h.blue _ b.blue blue

theorem nonneg (h : o.IsPlausible) (c : Color) : 0 ≤ o.luminance c := by
  have dark : o.luminance black = 0 := by
    rw [h.landmark black (by simp [landmarks]), standard]
    have none : black.luminance = 0 := by decide +kernel
    simp [none]
  exact dark ▸ h.mono (Fin.zero_le _) (Fin.zero_le _) (Fin.zero_le _)

theorem white_eq (h : o.IsPlausible) : o.luminance white = 1 := by
  rw [h.landmark white (by simp [landmarks]), standard]
  have full : white.luminance = Color.fullLuminance := by decide +kernel
  simp only [full]
  exact div_self fullLuminance_pos.ne'

theorem le_one (h : o.IsPlausible) (c : Color) : o.luminance c ≤ 1 :=
  h.white_eq ▸ h.mono (Fin.le_last c.red) (Fin.le_last c.green) (Fin.le_last c.blue)

/-- Nothing is lighter than white, so the contrast falls with the luminance. -/
theorem le_contrast_iff (h : o.IsPlausible) :
    minimum ≤ o.contrast c white ↔ minimum * (o.luminance c + 1 / 20) ≤ 21 / 20 := by
  have dark := h.nonneg c
  have light := h.le_one c
  rw [contrast, h.white_eq, max_eq_right light, min_eq_left light, le_div_iff₀ (by linarith)]
  norm_num

theorem contrast_landmark (h : o.IsPlausible) (mem : c ∈ landmarks) :
    o.contrast c white = standard.contrast c white := by
  rw [contrast, contrast, h.landmark c mem, h.landmark white (by simp [landmarks])]

/-- What stands out enough for text does for labels. -/
theorem contrast_fallbackDark (h : o.IsPlausible) (least : minimum ≤ 9 / 2) :
    minimum ≤ o.contrast fallbackDark white := by
  have usual : Color.contrastAtLeast fallbackDark white Color.textContrast := by decide +kernel
  rw [h.contrast_landmark (by simp [landmarks])]
  rw [← le_contrast_standard, textContrast_eq] at usual
  exact least.trans usual

theorem contrast_fallbackBanner (h : o.IsPlausible) :
    9 / 2 ≤ o.contrast fallbackBanner white := by
  have usual : Color.contrastAtLeast fallbackBanner white Color.textContrast := by decide +kernel
  rw [h.contrast_landmark (by simp [landmarks])]
  rwa [← le_contrast_standard, textContrast_eq] at usual

/-- The search for a readable colour ends at one, since its last resort is one. -/
theorem le_contrast_firstReadable (h : o.IsPlausible) (least : minimum ≤ 9 / 2) (c : Color) :
    minimum ≤ o.contrast (o.firstReadable minimum c) white := by
  have light : 1 / 2 < o.luminance white := by
    rw [h.white_eq]
    norm_num
  rw [firstReadable]
  split
  · next percent found => simpa using List.find?_some found
  · simp only [light, if_true]
    exact h.contrast_fallbackDark least

/-- Four fifths of white bring every channel to the light end. -/
theorem le_tint (m : Mixing) (c : Color) : 204 ≤ (m.tint 80 c).red.val
    ∧ 204 ≤ (m.tint 80 c).green.val ∧ 204 ≤ (m.tint 80 c).blue.val := by
  cases m with
  | exact =>
    have each (v : Channel) :
        204 ≤ (Mixing.ofHundredths (100 * v.val + (255 - v.val) * 80)).val := by
      revert v
      decide +kernel
    exact ⟨each c.red, each c.green, each c.blue⟩
  | binary =>
    exact ⟨Color.le_tintChannel c.red, Color.le_tintChannel c.green, Color.le_tintChannel c.blue⟩

theorem lt_luminance_tint (h : o.IsPlausible) (c : Color) :
    1 / 2 < o.luminance (o.mixing.tint 80 c) := by
  have usual : (Color.rgb 204 204 204).isLight := by decide +kernel
  obtain ⟨red, green, blue⟩ := le_tint o.mixing c
  calc 1 / 2
    _ < standard.luminance (Color.rgb 204 204 204) := (lt_luminance_standard _).mpr usual
    _ = o.luminance (Color.rgb 204 204 204) := (h.landmark _ (by simp [landmarks])).symm
    _ ≤ o.luminance (o.mixing.tint 80 c) := h.mono red green blue

/-- Every entry is replaced by what it is to be. -/
theorem onTarget_replacement (h : o.IsPlausible) (banner : Bool) (c : Color) (slot : Slot) :
    o.OnTarget (o.replacement banner c slot) slot := by
  cases slot with
  | primary =>
    rw [OnTarget, replacement]
    split
    · split
      · next readable => exact readable
      · exact h.contrast_fallbackBanner
    · exact h.le_contrast_firstReadable le_rfl c
  | text => exact h.le_contrast_firstReadable le_rfl c
  | muted => exact h.le_contrast_firstReadable (by norm_num) c
  | accent => exact h.le_contrast_firstReadable (by norm_num) c
  | secondary => exact h.lt_luminance_tint c

/-- What stands out from white as text does is dark enough to carry white text. -/
theorem textOn_of_onTarget (h : o.IsPlausible) (target : o.OnTarget c .primary) :
    o.textOn c = white := by
  have dark : 9 / 2 * (o.luminance c + 1 / 20) ≤ 21 / 20 := h.le_contrast_iff.mp target
  have carries : ¬ 2 / 5 < o.luminance c := by
    intro light
    linarith
  rw [textOn, if_neg carries]

end Optics.IsPlausible

/-! Repair -/

namespace Palette

/-- Palettes whose texts are colours. -/
def IsRead (p : Palette Swatch) : Prop :=
  ∀ slot, Color.ofText? (p.entry slot).text = some (p.entry slot).color

/-- One message for each entry that has another text now. -/
def changes (banner : Bool) (p q : Palette Swatch) : List PaletteFix :=
  (Slot.told.filter fun slot => (p.entry slot).text ≠ (q.entry slot).text).map fun slot =>
    ⟨slot.subject banner, (p.entry slot).text, (q.entry slot).color⟩

end Palette

namespace Optics

variable {o : Optics} {p : Palette Swatch} {banner : Bool}

/-- What repair is to come to. -/
structure Settles (o : Optics) (banner : Bool) (p : Palette Swatch)
    (result : Palette Swatch × List PaletteFix) : Prop where
  read : result.1.IsRead
  target : ∀ slot, o.OnTarget (result.1.entry slot).color slot
  kept : ∀ slot, o.OnTarget (p.entry slot).color slot → result.1.entry slot = p.entry slot
  told : result.2 = Palette.changes banner p result.1
  again : o.repair banner result.1 = (result.1, [])
  header : o.textOn result.1.primary.color = white

theorem entry_repair (slot : Slot) : (o.repair banner p).1.entry slot
    = ((p.entry slot).change (slot.subject banner) (o.change? banner (p.entry slot).color slot)).1 :=
  Palette.entry_ofEntries _ slot

theorem entry_repair_of_onTarget {slot : Slot} (target : o.OnTarget (p.entry slot).color slot) :
    (o.repair banner p).1.entry slot = p.entry slot := by
  rw [entry_repair, change?, if_pos target]
  rfl

theorem entry_repair_of_not_onTarget {slot : Slot}
    (missed : ¬ o.OnTarget (p.entry slot).color slot) : (o.repair banner p).1.entry slot
      = (o.replacement banner (p.entry slot).color slot).swatch := by
  rw [entry_repair, change?, if_neg missed]
  rfl

/-- There is nothing to do for a palette that is what it is to be. -/
theorem repair_of_onTarget (target : ∀ slot, o.OnTarget (p.entry slot).color slot) :
    o.repair banner p = (p, []) := by
  have none (slot : Slot) : o.change? banner (p.entry slot).color slot = none :=
    if_pos (target slot)
  simp only [repair, none, Swatch.change]
  exact Prod.ext rfl (List.flatMap_eq_nil_iff.mpr fun _ _ => rfl)

theorem onTarget_repair (h : o.IsPlausible) (banner : Bool) (p : Palette Swatch) (slot : Slot) :
    o.OnTarget ((o.repair banner p).1.entry slot).color slot := by
  by_cases target : o.OnTarget (p.entry slot).color slot
  · rwa [entry_repair_of_onTarget target]
  · rw [entry_repair_of_not_onTarget target]
    exact h.onTarget_replacement banner _ slot

/-- An entry that is replaced has another text, as it reads as another colour. -/
theorem text_repair_ne (h : o.IsPlausible) (read : p.IsRead) {slot : Slot}
    (missed : ¬ o.OnTarget (p.entry slot).color slot) :
    (p.entry slot).text ≠ ((o.repair banner p).1.entry slot).text := by
  intro same
  rw [entry_repair_of_not_onTarget missed] at same
  have color := read slot
  rw [same, Color.swatch, Color.ofText?_hex] at color
  exact missed (Option.some.inj color ▸ h.onTarget_replacement banner _ slot)

theorem map_filter_eq_flatMap {α β : Type} (p : α → Prop) [DecidablePred p] (f : α → β)
    (items : List α) : (items.filter fun a => p a).map f
      = items.flatMap fun a => if p a then [f a] else [] := by
  induction items with
  | nil => rfl
  | cons a items ih => by_cases h : p a <;> simp [h, ih]

theorem told_repair (h : o.IsPlausible) (read : p.IsRead) :
    (o.repair banner p).2 = Palette.changes banner p (o.repair banner p).1 := by
  have each (slot : Slot) :
      ((p.entry slot).change (slot.subject banner) (o.change? banner (p.entry slot).color slot)).2
        = if (p.entry slot).text ≠ ((o.repair banner p).1.entry slot).text then
            [⟨slot.subject banner, (p.entry slot).text, ((o.repair banner p).1.entry slot).color⟩]
          else [] := by
    by_cases target : o.OnTarget (p.entry slot).color slot
    · rw [entry_repair_of_onTarget target, if_neg (not_not_intro rfl), change?, if_pos target]
      rfl
    · rw [if_pos (text_repair_ne h read target), entry_repair_of_not_onTarget target, change?,
        if_neg target]
      rfl
  rw [Palette.changes, map_filter_eq_flatMap]
  exact congrArg (Slot.told.flatMap ·) (funext each)

theorem read_repair (read : p.IsRead) : (o.repair banner p).1.IsRead := by
  intro slot
  by_cases target : o.OnTarget (p.entry slot).color slot
  · rw [entry_repair_of_onTarget target]
    exact read slot
  · rw [entry_repair_of_not_onTarget target]
    exact Color.ofText?_hex _

theorem settles_repair (h : o.IsPlausible) (read : p.IsRead) :
    o.Settles banner p (o.repair banner p) where
  read := read_repair read
  target := onTarget_repair h banner p
  kept := fun _ => entry_repair_of_onTarget
  told := told_repair h read
  again := repair_of_onTarget (onTarget_repair h banner p)
  header := h.textOn_of_onTarget (onTarget_repair h banner p .primary)

end Optics

/-! Objects of named colours -/

namespace Palette

/-- An object with the texts of a palette under their names. -/
def IsIn (p : Palette Swatch) (members : List (String × Json)) : Prop :=
  ∀ slot : Slot, Json.get? slot.name members = some (.string (p.entry slot).text)

variable {p : Palette Swatch} {members : List (String × Json)}

theorem swatchIn_eq_ok (read : p.IsRead) (inside : p.IsIn members) (slot : Slot) :
    swatchIn members slot.name = .ok (p.entry slot) := by
  rw [swatchIn, inside slot]
  show (Color.read Color.unnamed (.string (p.entry slot).text) >>= _) = _
  rw [Color.read, read slot]
  rfl

/-- The repaired entries are put in their places, and the other members stay. -/
theorem repairMembers_eq_ok (banner : Bool) (read : p.IsRead) (inside : p.IsIn members) :
    ∃ repaired, repairMembers banner members = .ok (repaired, (repair banner p).2)
      ∧ (repair banner p).1.IsIn repaired
      ∧ ∀ name ∉ names, Json.get? name repaired = Json.get? name members := by
  have found := swatchIn_eq_ok read inside
  let put := fun (members : List (String × Json)) (entry : String × Swatch) =>
    putMember entry.1 (Json.string entry.2.text) members
  refine ⟨(repair banner p).1.entries.foldl put members, ?_, ?_, ?_⟩
  · refine (Checked.bind_of_ok (found .primary) _).trans ?_
    refine (Checked.bind_of_ok (found .text) _).trans ?_
    refine (Checked.bind_of_ok (found .muted) _).trans ?_
    refine (Checked.bind_of_ok (found .accent) _).trans ?_
    refine (Checked.bind_of_ok (found .secondary) _).trans ?_
    dsimp only [entry]
    rcases repair banner p with ⟨repaired, fixes⟩
    rfl
  · intro slot
    cases slot <;> simp [entries, put, Json.get?_putMember, Slot.name, entry]
  · intro name other
    simp only [names, List.mem_cons, List.not_mem_nil, or_false, not_or] at other
    simp only [entries, List.foldl_cons, List.foldl_nil, put, Json.get?_putMember]
    obtain ⟨primary, secondary, accent, text, muted⟩ := other
    rw [if_neg (Ne.symm muted), if_neg (Ne.symm text), if_neg (Ne.symm accent),
      if_neg (Ne.symm secondary), if_neg (Ne.symm primary)]

end Palette

/-- Repair reaches its targets. Take any luminance that does not fall in any channel and is the
usual one at the fixed colours, mix exactly and round or mix in binary arithmetic, and repair a
palette of five texts that are colours, for a header with a banner or without. Then every entry of
the result is what it is to be, entries that were so are as given, there is one message for each
entry that has another text, a second repair changes nothing and tells nothing, and white text goes
on the header. The palettes of documents are repaired like this, with one such luminance: what is
read out of an object of named colours is put back repaired, is readable, and carries white text. -/
theorem palette_repair_reaches_targets (banner : Bool) {p : Palette Swatch} (read : p.IsRead) :
    (∀ o : Optics, o.IsPlausible → o.Settles banner p (o.repair banner p))
      ∧ Optics.standard.IsPlausible
      ∧ (∀ q, Optics.standard.repair banner q = Palette.repair banner q)
      ∧ ((Palette.repair banner p).1.map Swatch.color).IsReadable
      ∧ (Palette.repair banner p).1.primary.color.textOn = white
      ∧ ∀ members, p.IsIn members → ∃ repaired,
        Palette.repairMembers banner members = .ok (repaired, (Palette.repair banner p).2)
          ∧ (Palette.repair banner p).1.IsIn repaired
          ∧ ∀ name ∉ Palette.names, Json.get? name repaired = Json.get? name members := by
  have settled : Optics.standard.Settles banner p (Optics.standard.repair banner p) :=
    Optics.settles_repair Optics.isPlausible_standard read
  have header := settled.header
  rw [Optics.textOn_standard, Optics.repair_standard] at header
  exact ⟨fun o usual => Optics.settles_repair usual read, Optics.isPlausible_standard,
    Optics.repair_standard banner, Palette.isReadable_repair banner p, header,
    fun members => Palette.repairMembers_eq_ok banner read⟩

/-- Gold behind the banner, and a muted label that is too light. -/
def goldPalette : Palette Swatch :=
  { primary := ⟨" FFD700 ", .rgb 0xff 0xd7 0x00⟩
    secondary := ⟨"#333", .rgb 0x33 0x33 0x33⟩
    accent := ⟨"#06C", .rgb 0x00 0x66 0xcc⟩
    text := ⟨"#222222", .rgb 0x22 0x22 0x22⟩
    muted := ⟨"#AAA", .rgb 0xaa 0xaa 0xaa⟩ }

def goldMembers : List (String × Json) :=
  [("text", .string "#222222"), ("paper", .null), ("primary", .string " FFD700 "),
    ("secondary", .string "#333"), ("accent", .string "#06C"), ("muted", .string "#AAA")]

/-- The usual luminance, with colours mixed exactly. -/
def Optics.exact : Optics := { Optics.standard with mixing := .exact }

theorem palette_repair_reaches_targets_gold :
    goldPalette.IsRead ∧ goldPalette.IsIn goldMembers
      ∧ Optics.exact.Settles true goldPalette (Optics.exact.repair true goldPalette)
      ∧ ∃ repaired fixes, Palette.repairMembers true goldMembers = .ok (repaired, fixes)
        ∧ fixes.map PaletteFix.text = ["banner background  FFD700  -> #1a365d",
          "muted #AAA -> #888888", "secondary #333 -> #d6d6d6"] := by
  have read : goldPalette.IsRead := by
    intro slot
    cases slot <;> decide +kernel
  have inside : goldPalette.IsIn goldMembers := by
    intro slot
    cases slot <;> rfl
  have usual : Optics.exact.IsPlausible :=
    { red := Optics.isPlausible_standard.red
      green := Optics.isPlausible_standard.green
      blue := Optics.isPlausible_standard.blue
      landmark := Optics.isPlausible_standard.landmark }
  obtain ⟨settles, -, -, -, -, repairs⟩ := palette_repair_reaches_targets true read
  obtain ⟨repaired, same, -, -⟩ := repairs goldMembers inside
  exact ⟨read, inside, settles _ usual, repaired, _, same, by decide +kernel⟩

end Vitae
