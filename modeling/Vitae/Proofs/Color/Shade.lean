import Vitae.Proofs.Color.Codec
import Vitae.Proofs.Decimal.Range

/-!
Shades of colours. Three finite numbers make a colour, rounded and kept between dark and full light,
and a colour that is darkened, lightened or tinted is a colour again as long as no result on the way
is beyond the range of binary numbers.
-/

namespace Vitae

open Decimal (Binary64 Number nearestEven)
open Decimal.Binary64 (overflow reach)

/-! Numbers as channels -/

namespace Color

/-- The text of the colour of three numbers. -/
def hexOf (red green blue : Number) : Checked String := (ofNumbers red green blue).map hex

/-- The channel nearest to a number, a tie going to the even one. -/
def levelOf (x : ℚ) : Nat := (max 0 (min 255 (nearestEven x))).toNat

theorem val_clampChannel (x : ℚ) : (clampChannel (nearestEven x)).val = levelOf x := by
  rw [clampChannel, levelOf, Fin.val_ofNat]
  omega

theorem channelOfNumber_of_isFinite {n : Number} (h : n.IsFinite) :
    channelOfNumber n = .ok (clampChannel (nearestEven n.value)) := by
  rw [channelOfNumber, Number.round_of_isFinite h]
  rfl

theorem exists_ofNumbers {red green blue : Number} (hr : red.IsFinite) (hg : green.IsFinite)
    (hb : blue.IsFinite) : ∃ c, ofNumbers red green blue = .ok c
      ∧ c.red.val = levelOf red.value ∧ c.green.val = levelOf green.value
      ∧ c.blue.val = levelOf blue.value := by
  refine ⟨⟨clampChannel (nearestEven red.value), clampChannel (nearestEven green.value),
    clampChannel (nearestEven blue.value)⟩, ?_, val_clampChannel _, val_clampChannel _,
    val_clampChannel _⟩
  rw [ofNumbers, channelOfNumber_of_isFinite hr, channelOfNumber_of_isFinite hg,
    channelOfNumber_of_isFinite hb]
  rfl

/-- A result beyond the range is refused as a channel. -/
theorem channelOfNumber_of_isNumber {x : Binary64} (h : x.IsNumber) :
    (x.IsProper ∧ ∃ v, channelOfNumber (.binary x) = .ok v)
      ∨ (¬ x.IsProper ∧ channelOfNumber (.binary x) = .error (.misuse .overflow)) := by
  rcases h with proper | ⟨negative, rfl⟩
  · exact .inl ⟨proper, _, channelOfNumber_of_isFinite proper⟩
  · exact .inr ⟨id, rfl⟩

def channels (c : Color) : List Channel := [c.red, c.green, c.blue]

theorem exists_mapChannels {rule : Nat → Binary64} {c : Color}
    (h : ∀ v ∈ c.channels, (rule v.val).IsProper) : ∃ d, c.mapChannels rule = .ok d := by
  simp only [channels, List.forall_mem_cons] at h
  obtain ⟨hr, hg, hb, -⟩ := h
  obtain ⟨d, given, -⟩ := exists_ofNumbers (show Number.IsFinite (.binary _) from hr)
    (show Number.IsFinite (.binary _) from hg) (show Number.IsFinite (.binary _) from hb)
  exact ⟨d, given⟩

theorem mapChannels_of_not_isProper {rule : Nat → Binary64} {c : Color}
    (numbers : ∀ v : Channel, (rule v.val).IsNumber)
    (h : ¬ ∀ v ∈ c.channels, (rule v.val).IsProper) :
    c.mapChannels rule = .error (.misuse .overflow) := by
  rcases channelOfNumber_of_isNumber (numbers c.red) with ⟨hr, r, red⟩ | ⟨-, red⟩
  · rcases channelOfNumber_of_isNumber (numbers c.green) with ⟨hg, g, green⟩ | ⟨-, green⟩
    · rcases channelOfNumber_of_isNumber (numbers c.blue) with ⟨hb, -⟩ | ⟨-, blue⟩
      · exact absurd (by simp [channels, hr, hg, hb]) h
      · rw [mapChannels, ofNumbers, red, green, blue]
        rfl
    · rw [mapChannels, ofNumbers, red, green]
      rfl
  · rw [mapChannels, ofNumbers, red]
    rfl

/-- The channels of a colour make that colour. -/
theorem ofNumbers_levels (c : Color) :
    ofNumbers (.whole c.red.val) (.whole c.green.val) (.whole c.blue.val) = .ok c := by
  have same (v : Channel) : clampChannel (v.val : ℤ) = v := by
    apply Fin.ext
    rw [clampChannel, Fin.val_ofNat]
    omega
  have each (v : Channel) : channelOfNumber (.whole v.val) = .ok v :=
    congrArg Except.ok (same v)
  rw [ofNumbers, each, each, each]
  rfl

/-- The channels of an accepted colour are written as its normal form. -/
theorem hexOf_levels {value : Json} (h : IsHexColor value) (field : String) :
    (do
      let (red, green, blue) ← levels value
      hexOf (.whole red) (.whole green) (.whole blue)) = normalize field value := by
  obtain ⟨c, given⟩ := exists_read_of_isHexColor h
  have same : hexOf (.whole c.red.val) (.whole c.green.val) (.whole c.blue.val) = .ok c.hex :=
    congrArg (Except.map hex) (ofNumbers_levels c)
  rw [levels, normalize, given, given]
  exact same

/-- Finite numbers are written in normal form, which is read as the channels nearest to them. -/
theorem exists_hexOf {red green blue : Number} (hr : red.IsFinite) (hg : green.IsFinite)
    (hb : blue.IsFinite) : ∃ text, hexOf red green blue = .ok text ∧ IsNormal text
      ∧ (∀ field, normalize field (.string text) = .ok text)
      ∧ levels (.string text)
        = .ok (levelOf red.value, levelOf green.value, levelOf blue.value) := by
  obtain ⟨c, made, first, second, third⟩ := exists_ofNumbers hr hg hb
  refine ⟨c.hex, ?_, isNormal_hex c, fun field => normalize_hex field c, ?_⟩
  · rw [hexOf, made]
    rfl
  · rw [levels_hex, first, second, third]

end Color

/-! Shades -/

/-- The ways to make a colour darker or lighter by a percentage. -/
inductive Shade where
  | darken
  | lighten
  | tint
  deriving DecidableEq, Repr

namespace Shade

def apply : Shade → Color → Number → Checked Color
  | .darken => Color.darken
  | .lighten => Color.lighten
  | .tint => Color.tint

/-- The text of a shade of a colour that is given in any of its forms. -/
def text (shade : Shade) (value : Json) (percent : Number) : Checked String := do
  let c ← Color.read Color.unnamed value
  (shade.apply c percent).map Color.hex

/-- What is divided by a hundred. -/
def dividend : Shade → Number → Number
  | .darken, percent => percent
  | .lighten, percent => percent.scale 255
  | .tint, percent => percent

/-- What a percentage comes to for all channels: a share, or what is added to each. -/
def amount (shade : Shade) (percent : Number) : Checked Binary64 :=
  (shade.dividend percent).divNat 100

def channel : Shade → Binary64 → Nat → Binary64
  | .darken, share => Color.darkenChannel (Color.binaryOf 1 - share)
  | .lighten, shift => Color.shiftChannel shift
  | .tint, share => Color.tintChannel share

theorem apply_eq (shade : Shade) (c : Color) (percent : Number) :
    shade.apply c percent = shade.amount percent >>= fun a => c.mapChannels (shade.channel a) := by
  cases shade <;> rfl

/-- Nothing on the way to the channels of a shade is too large for a binary number. -/
def StaysInRange (shade : Shade) (c : Color) (percent : Number) : Prop :=
  ∃ a, shade.amount percent = .ok a
    ∧ ∀ v ∈ c.channels, (shade.channel a v.val).IsProper

/-! Ranges -/

theorem binaryOf_spec {n : Nat} (h : n ≤ 255) :
    (Color.binaryOf n).IsProper ∧ |(Color.binaryOf n).value| ≤ 511 := by
  have rounds := Binary64.rounds_ofInt n
  have most : (n : ℚ) ≤ 255 := by exact_mod_cast h
  have size : |((n : ℤ) : ℚ)| = n := by rw [Int.cast_natCast, Nat.abs_cast]
  refine ⟨rounds.proper ?_, rounds.bound.trans ?_⟩
  · rw [size]
    exact Binary64.lt_overflow (by linarith)
  · rw [size]
    linarith

/-- What is left of full light when a share of it is taken away. -/
theorem one_sub_spec {share : Binary64} (h : share.IsProper) :
    (Color.binaryOf 1 - share).IsProper
      ∧ |(Color.binaryOf 1 - share).value| ≤ 2 * |share.value| + 1023 := by
  obtain ⟨one, small⟩ := binaryOf_spec (show 1 ≤ 255 by decide)
  have rounds := Binary64.rounds_sub one h
  have triangle := abs_sub (Color.binaryOf 1).value share.value
  refine ⟨rounds.proper (triangle.trans_lt ?_), rounds.bound.trans ?_⟩
  · exact Binary64.add_lt_overflow h (by linarith)
  · linarith

/-- A channel is a number again, if only an infinite one. -/
theorem isNumber_channel (shade : Shade) {a : Binary64} (h : a.IsProper) {n : Nat} (le : n ≤ 255) :
    (shade.channel a n).IsNumber := by
  obtain ⟨own, -⟩ := binaryOf_spec le
  cases shade with
  | darken => exact (Binary64.rounds_mul own (one_sub_spec h).1).isNumber
  | lighten => exact (Binary64.rounds_add own h).isNumber
  | tint =>
    obtain ⟨rest, -⟩ := binaryOf_spec (show 255 - n ≤ 255 by omega)
    rcases (Binary64.rounds_mul rest h).isNumber with proper | ⟨negative, beyond⟩
    · exact (Binary64.rounds_add own proper).isNumber
    · refine .inr ⟨negative, ?_⟩
      rw [channel, Color.tintChannel, beyond, Binary64.add_infinite own]

/-- A product with a channel is at most 511 times as large, however the channel is rounded. -/
theorem abs_mul_le {x y : Binary64} (small : |x.value| ≤ 511) :
    |x.value * y.value| ≤ 511 * |y.value| := by
  rw [abs_mul]
  gcongr

/-- A channel stays in range with any amount that a percentage within reach can come to. -/
theorem isProper_channel (shade : Shade) {a : Binary64} (h : a.IsProper)
    (small : |a.value| ≤ 21 * reach + 2) {n : Nat} (le : n ≤ 255) :
    (shade.channel a n).IsProper := by
  obtain ⟨own, size⟩ := binaryOf_spec le
  have room := Binary64.reach_le_overflow
  have positive := Binary64.reach_pos
  cases shade with
  | darken =>
    obtain ⟨left, most⟩ := one_sub_spec h
    refine (Binary64.rounds_mul own left).proper ?_
    have bound : |_ * (Color.binaryOf 1 - a).value| ≤ _ := abs_mul_le size
    linarith
  | lighten =>
    refine (Binary64.rounds_add own h).proper ?_
    have triangle := abs_add_le (Color.binaryOf n).value a.value
    linarith
  | tint =>
    obtain ⟨rest, most⟩ := binaryOf_spec (show 255 - n ≤ 255 by omega)
    have rounds := Binary64.rounds_mul rest h
    have bound : |_ * a.value| ≤ _ := abs_mul_le most
    have proper := rounds.proper (by linarith)
    refine (Binary64.rounds_add own proper).proper ?_
    have triangle := abs_add_le (Color.binaryOf n).value (Color.binaryOf (255 - n) * a).value
    linarith [rounds.bound]

theorem dividend_of_isFinite (shade : Shade) {percent : Number} (h : percent.IsFinite) :
    (shade.dividend percent).IsFinite
      ∨ shade = .lighten ∧ ∃ negative, shade.dividend percent = .binary (.infinite negative) := by
  cases shade with
  | darken | tint => exact .inl h
  | lighten =>
    cases percent with
    | whole n => exact .inl trivial
    | binary x =>
      obtain ⟨full, -⟩ := binaryOf_spec le_rfl
      rcases (Binary64.rounds_mul full h).isNumber with proper | ⟨negative, beyond⟩
      · exact .inl proper
      · exact .inr ⟨rfl, negative, congrArg Number.binary beyond⟩

theorem dividend_of_le (shade : Shade) {percent : Number} (h : percent.IsFinite)
    (small : |percent.value| ≤ reach) :
    (shade.dividend percent).IsFinite
      ∧ |(shade.dividend percent).value| ≤ 1022 * reach + 1 := by
  have room := Binary64.reach_le_overflow
  have positive := Binary64.reach_pos
  cases shade with
  | darken | tint => exact ⟨h, small.trans (by linarith)⟩
  | lighten =>
    cases percent with
    | whole n =>
      have size : |((255 * n : ℤ) : ℚ)| = 255 * |(n : ℚ)| := by
        rw [Int.cast_mul, abs_mul, Int.cast_ofNat, abs_of_pos (by norm_num)]
      have small : |(n : ℚ)| ≤ reach := small
      exact ⟨trivial, size.trans_le (by linarith)⟩
    | binary x =>
      obtain ⟨full, size⟩ := binaryOf_spec le_rfl
      have rounds := Binary64.rounds_mul full h
      have bound : |_ * x.value| ≤ _ := abs_mul_le size
      have small : |x.value| ≤ reach := small
      exact ⟨rounds.proper (by linarith), rounds.bound.trans (by linarith)⟩

/-- An amount is refused, or leaves a number for every channel. -/
theorem amount_of_isFinite (shade : Shade) {percent : Number} (h : percent.IsFinite) :
    (∃ a, shade.amount percent = .ok a ∧ ∀ v : Channel, (shade.channel a v.val).IsNumber)
      ∨ shade.amount percent = .error (.misuse .overflow) := by
  rcases shade.dividend_of_isFinite h with finite | ⟨rfl, negative, infinite⟩
  · obtain ⟨a, rounds, given⟩ := Number.exists_divNat finite (show 0 < 100 by decide)
    obtain ⟨fits, fails⟩ := Binary64.finiteOr_of_rounds rounds
    rcases lt_or_ge |_| overflow with within | beyond
    · exact .inl ⟨a, given.trans (fits within), fun v =>
        shade.isNumber_channel (rounds.proper within) (Nat.le_of_lt_succ v.isLt)⟩
    · exact .inr (given.trans (fails beyond))
  · -- full light times the percentage is infinite, and so is every channel it is added to
    refine .inl ⟨.infinite negative, by rw [amount, infinite]; rfl, fun v => .inr ⟨negative, ?_⟩⟩
    obtain ⟨own, -⟩ := binaryOf_spec (Nat.le_of_lt_succ v.isLt)
    exact Binary64.add_infinite own negative

theorem exists_apply {shade : Shade} {c : Color} {percent : Number}
    (h : shade.StaysInRange c percent) : ∃ d, shade.apply c percent = .ok d := by
  obtain ⟨a, given, proper⟩ := h
  rw [apply_eq, given]
  exact Color.exists_mapChannels proper

theorem apply_of_not_staysInRange {shade : Shade} {c : Color} {percent : Number}
    (finite : percent.IsFinite) (h : ¬ shade.StaysInRange c percent) :
    shade.apply c percent = .error (.misuse .overflow) := by
  rw [apply_eq]
  rcases shade.amount_of_isFinite finite with ⟨a, given, numbers⟩ | refused
  · rw [given]
    exact Color.mapChannels_of_not_isProper numbers fun proper => h ⟨a, given, proper⟩
  · rw [refused]
    rfl

/-- Percentages within reach stay in range. -/
theorem staysInRange_of_le (shade : Shade) (c : Color) {percent : Number}
    (finite : percent.IsFinite) (small : |percent.value| ≤ reach) :
    shade.StaysInRange c percent := by
  obtain ⟨whole, most⟩ := shade.dividend_of_le finite small
  obtain ⟨a, rounds, given⟩ := Number.exists_divNat whole (show 0 < 100 by decide)
  have size : |(shade.dividend percent).value / (100 : Nat)| ≤ (1022 * reach + 1) / 100 := by
    rw [abs_div, Nat.abs_cast, Nat.cast_ofNat]
    gcongr
  have room := Binary64.reach_le_overflow
  have positive := Binary64.reach_pos
  have bound := rounds.bound
  have within : |(shade.dividend percent).value / (100 : Nat)| < overflow := by linarith
  have amount : |a.value| ≤ 21 * reach + 2 := by linarith
  refine ⟨a, given.trans ((Binary64.finiteOr_of_rounds rounds).1 within), fun v _ => ?_⟩
  exact shade.isProper_channel (rounds.proper within) amount (Nat.le_of_lt_succ v.isLt)

theorem exists_text {shade : Shade} {value : Json} {c : Color} {percent : Number}
    (given : Color.read Color.unnamed value = .ok c) (h : shade.StaysInRange c percent) :
    ∃ text, shade.text value percent = .ok text ∧ Color.IsNormal text
      ∧ ∀ field, Color.normalize field (.string text) = .ok text := by
  obtain ⟨d, made⟩ := exists_apply h
  refine ⟨d.hex, ?_, Color.isNormal_hex d, fun field => Color.normalize_hex field d⟩
  rw [text, given]
  exact congrArg (Except.map Color.hex) made

theorem text_of_not_staysInRange {shade : Shade} {value : Json} {c : Color} {percent : Number}
    (given : Color.read Color.unnamed value = .ok c) (finite : percent.IsFinite)
    (h : ¬ shade.StaysInRange c percent) :
    shade.text value percent = .error (.misuse .overflow) := by
  rw [text, given]
  exact congrArg (Except.map Color.hex) (apply_of_not_staysInRange finite h)

end Shade

/-- Colours are accepted in the forms of colours and in no other, their normal forms are fixed and
tell exactly their channels, and three finite numbers are written as the normal form of the channels
nearest to them. A shade of an accepted colour has a normal form too, unless something on the way to
it is too large for a binary number, which nothing is with percentages of at most `10 ^ 300`. -/
theorem hex_colors_are_canonical :
    (∀ s digits, Color.IsHexForm (Text.trimChars s.toList) digits → ∀ field,
      Color.normalize field (.string s)
        = .ok (String.ofList ('#' :: (Color.fullDigits digits).map Char.toLower)))
    ∧ (∀ value field,
      (Color.IsHexColor value → ∃ text, Color.normalize field value = .ok text
        ∧ Color.IsNormal text ∧ ∀ other, Color.normalize other (.string text) = .ok text)
      ∧ (¬ Color.IsHexColor value →
        ∃ cause, Color.normalize field value = .error (.configuration cause)))
    ∧ (∀ v w, Color.IsHexColor v → Color.IsHexColor w → ∀ field,
      Color.normalize field v = Color.normalize field w ↔ Color.levels v = Color.levels w)
    ∧ (∀ v, Color.IsHexColor v → ∀ field,
      (do
        let (red, green, blue) ← Color.levels v
        Color.hexOf (.whole red) (.whole green) (.whole blue)) = Color.normalize field v)
    ∧ (∀ red green blue : Number, red.IsFinite → green.IsFinite → blue.IsFinite →
      ∃ text, Color.hexOf red green blue = .ok text ∧ Color.IsNormal text
        ∧ (∀ field, Color.normalize field (.string text) = .ok text)
        ∧ Color.levels (.string text) = .ok (Color.levelOf red.value, Color.levelOf green.value,
          Color.levelOf blue.value))
    ∧ ∀ v, Color.IsHexColor v → ∃ c, Color.read Color.unnamed v = .ok c
      ∧ ∀ (shade : Shade) (percent : Number), percent.IsFinite →
        (shade.StaysInRange c percent → ∃ text, shade.text v percent = .ok text
          ∧ Color.IsNormal text ∧ ∀ field, Color.normalize field (.string text) = .ok text)
        ∧ (¬ shade.StaysInRange c percent →
          shade.text v percent = .error (.misuse .overflow))
        ∧ (|percent.value| ≤ 10 ^ 300 → shade.StaysInRange c percent) := by
  refine ⟨fun s digits form field => Color.normalize_of_form form field,
    fun value field => ⟨fun h => Color.normalize_of_isHexColor h field,
      fun h => Color.normalize_of_not_isHexColor h field⟩,
    fun v w hv hw field => Color.normalize_eq_iff hv hw field,
    fun v hv field => Color.hexOf_levels hv field,
    fun red green blue hr hg hb => Color.exists_hexOf hr hg hb, fun v hv => ?_⟩
  obtain ⟨c, given⟩ := Color.exists_read_of_isHexColor hv
  exact ⟨c, given Color.unnamed, fun shade percent finite =>
    ⟨fun stays => Shade.exists_text (given Color.unnamed) stays,
      fun leaves => Shade.text_of_not_staysInRange (given Color.unnamed) finite leaves,
      fun small => shade.staysInRange_of_le c finite small⟩⟩

theorem hex_colors_are_canonical_short :
    Color.normalize "colors.primary" (.string " #AbC") = .ok "#aabbcc"
    ∧ (∃ cause, Color.normalize "colors.primary" .null = .error (.configuration cause))
    ∧ (∃ text, Color.hexOf (.binary (Binary64.ofRatio true 1 2)) (.whole 300)
        (.binary (Binary64.ofRatio false 255 2)) = .ok text ∧ Color.IsNormal text)
    ∧ ∃ text, Shade.tint.text (.string "AbC") (.whole 50) = .ok text ∧ Color.IsNormal text := by
  have form (marked : List Char) (h : marked = "AbC".toList ∨ marked = '#' :: "AbC".toList) :
      Color.IsHexForm marked "AbC".toList := ⟨h, .inl (by decide), List.all_eq_true.mp (by decide)⟩
  have spaced : Color.IsHexForm (Text.trimChars " #AbC".toList) "AbC".toList :=
    form _ (.inr (by decide))
  have plain : Color.IsHexColor (.string "AbC") := ⟨_, form _ (.inl (by decide))⟩
  have small : |(Number.whole 50).value| ≤ 10 ^ 300 :=
    calc |(Number.whole 50).value|
      _ ≤ 10 ^ 2 := by norm_num [Number.value]
      _ ≤ 10 ^ 300 := pow_le_pow_right₀ (by norm_num) (by decide)
  obtain ⟨normal, decided, -, -, written, shaded⟩ := hex_colors_are_canonical
  obtain ⟨text, given, fixed, -⟩ := written (.binary (Binary64.ofRatio true 1 2)) (.whole 300)
    (.binary (Binary64.ofRatio false 255 2)) (by decide +kernel) trivial (by decide +kernel)
  obtain ⟨c, -, shades⟩ := shaded (.string "AbC") plain
  obtain ⟨within, -, near⟩ := shades .tint (.whole 50) trivial
  obtain ⟨mixed, made, clean, -⟩ := within (near small)
  exact ⟨normal " #AbC" _ spaced "colors.primary", (decided .null "colors.primary").2 id,
    ⟨text, given, fixed⟩, ⟨mixed, made, clean⟩⟩

/-- Light beyond the range of binary numbers is not added to a colour. -/
theorem no_text_of_overflowing_light :
    Color.IsHexColor (.string "#abc") ∧ (Number.binary (Binary64.ofDecimal false 1 308)).IsFinite
    ∧ ¬ ∃ text, Shade.lighten.text (.string "#abc")
        (.binary (Binary64.ofDecimal false 1 308)) = .ok text := by
  have refused : Shade.lighten.text (.string "#abc")
      (.binary (Binary64.ofDecimal false 1 308)) = .error (.misuse .overflow) := by decide +kernel
  have form : Color.IsHexForm (Text.trimChars "#abc".toList) "abc".toList :=
    ⟨.inr (by decide), .inl (by decide), List.all_eq_true.mp (by decide)⟩
  refine ⟨⟨_, form⟩, by decide +kernel, ?_⟩
  rintro ⟨text, given⟩
  rw [refused] at given
  cases given

end Vitae
