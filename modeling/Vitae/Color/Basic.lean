import Vitae.Decimal.Number
import Vitae.Text.Blank

/-!
Colours in hexadecimal form. Reading accepts three or six digits in either case, with or without the
mark and with white space around; writing gives the mark and six lower-case digits.
-/

namespace Vitae

open Decimal (Binary64 Number)

abbrev Channel := Fin 256

structure Color where
  red : Channel
  green : Channel
  blue : Channel
  deriving DecidableEq, Repr

namespace Color

def channelChars (c : Channel) : List Char := Text.hexDigits 2 c.val

def hexChars (c : Color) : List Char :=
  '#' :: channelChars c.red ++ channelChars c.green ++ channelChars c.blue

def hex (c : Color) : String := String.ofList c.hexChars

def channelOf (high low : Nat) : Channel := Fin.ofNat 256 (16 * high + low)

def ofDigits? : List Nat → Option Color
  | [r, g, b] => some ⟨channelOf r r, channelOf g g, channelOf b b⟩
  | [r, r', g, g', b, b'] => some ⟨channelOf r r', channelOf g g', channelOf b b'⟩
  | _ => none

def dropMark : List Char → List Char
  | '#' :: rest => rest
  | cs => cs

def ofChars? (cs : List Char) : Option Color :=
  (dropMark (Text.trimChars cs)).mapM Text.hexDigit? >>= ofDigits?

def ofText? (s : String) : Option Color := ofChars? s.toList

/-- Reads a colour; `field` names it in the message. -/
def read (field : String) (value : Json) : Checked Color :=
  match value with
  | .string s =>
    match ofText? s with
    | some c => .ok c
    | none => .error (.configuration (.notHexColor field s))
  | _ => .error (.configuration (.hexColorExpected field value))

/-- The name of a colour that is not a field of anything. -/
def unnamed : String := "color"

def clampChannel (n : Int) : Channel := Fin.ofNat 256 (min 255 n).toNat

/-- The colour of three channels below 256. -/
def rgb (red green blue : Nat) : Color :=
  ⟨Fin.ofNat 256 red, Fin.ofNat 256 green, Fin.ofNat 256 blue⟩

def white : Color := rgb 0xff 0xff 0xff

def black : Color := rgb 0 0 0

def darkText : Color := rgb 0x1a 0x1a 0x1a

def fallbackDark : Color := rgb 0x1a 0x20 0x2c

def fallbackBanner : Color := rgb 0x1a 0x36 0x5d

/-- A number, rounded and then clamped to a channel. -/
def channelOfNumber (n : Number) : Checked Channel := n.round.map clampChannel

/-- Three numbers, one for each channel. -/
def ofNumbers (red green blue : Number) : Checked Color := do
  return ⟨← channelOfNumber red, ← channelOfNumber green, ← channelOfNumber blue⟩

/-- Three values of any kind, each read as a number when its turn comes. -/
def ofValues (red green blue : Json) : Checked Color := do
  let channel := fun value => (Number.ofJson value).bind channelOfNumber
  return ⟨← channel red, ← channel green, ← channel blue⟩

/-- Applies a rule to the three channels. -/
def mapChannels (rule : Nat → Binary64) (c : Color) : Checked Color :=
  ofNumbers (.binary (rule c.red.val)) (.binary (rule c.green.val)) (.binary (rule c.blue.val))

def binaryOf (n : Nat) : Binary64 := Binary64.ofInt n

def darkenChannel (factor : Binary64) (c : Nat) : Binary64 := binaryOf c * factor

def shiftChannel (shift : Binary64) (c : Nat) : Binary64 := binaryOf c + shift

def tintChannel (factor : Binary64) (c : Nat) : Binary64 := binaryOf c + binaryOf (255 - c) * factor

/-- Takes away a percentage of every channel. -/
def darken (c : Color) (percent : Number) : Checked Color := do
  let share ← percent.divNat 100
  c.mapChannels (darkenChannel (binaryOf 1 - share))

/-- Adds a percentage of full light to every channel. -/
def lighten (c : Color) (percent : Number) : Checked Color := do
  let shift ← (percent.scale 255).divNat 100
  c.mapChannels (shiftChannel shift)

/-- Mixes a percentage of white into every channel. -/
def tint (c : Color) (percent : Number) : Checked Color := do
  let share ← percent.divNat 100
  c.mapChannels (tintChannel share)

def roundToChannel (x : Binary64) : Channel := clampChannel (x.round?.getD 0)

def perCent (percent : Nat) : Binary64 := Binary64.ofRatio false percent 100

/-- `darken` by a whole percentage, which never fails. -/
def darkenBy (percent : Nat) (c : Color) : Color :=
  let rule := fun (v : Channel) =>
    roundToChannel (darkenChannel (binaryOf 1 - perCent percent) v.val)
  ⟨rule c.red, rule c.green, rule c.blue⟩

/-- `lighten` by a whole percentage, which never fails. -/
def lightenBy (percent : Nat) (c : Color) : Color :=
  let shift := Binary64.ofRatio false (255 * percent) 100
  let rule := fun (v : Channel) => roundToChannel (shiftChannel shift v.val)
  ⟨rule c.red, rule c.green, rule c.blue⟩

/-- `tint` by a whole percentage, which never fails. -/
def tintBy (percent : Nat) (c : Color) : Color :=
  let rule := fun (v : Channel) => roundToChannel (tintChannel (perCent percent) v.val)
  ⟨rule c.red, rule c.green, rule c.blue⟩

end Color

end Vitae
