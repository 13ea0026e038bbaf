import Vitae.Color.Basic

/-!
Colours and their texts. Reading the text of a colour gives the colour back.
-/

namespace Vitae

namespace Text

theorem hexDigit?_lowerHexDigit {n : Nat} (h : n < 16) : hexDigit? (lowerHexDigit n) = some n := by
  have each : ∀ n < 16, hexDigit? (lowerHexDigit n) = some n := by decide
  exact each n h

theorem isBlank_lowerHexDigit {n : Nat} (h : n < 16) : isBlank (lowerHexDigit n) = false := by
  have each : ∀ n < 16, isBlank (lowerHexDigit n) = false := by decide
  exact each n h

/-- There is nothing to trim where neither end is blank. -/
theorem trimChars_of_ends {first last : Char} {inner : List Char} (h : isBlank first = false)
    (h' : isBlank last = false) :
    trimChars (first :: inner ++ [last]) = first :: inner ++ [last] := by
  have left : trimLeft (first :: inner ++ [last]) = first :: inner ++ [last] := by
    simp [trimLeft, h]
  rw [trimChars, left, trimRight]
  simp [h']

end Text

namespace Color

/-- The two digits of a channel. -/
def channelDigits (c : Channel) : List Nat := [c.val / 16, c.val % 16]

theorem lt_of_mem_channelDigits {c : Channel} {n : Nat} (mem : n ∈ channelDigits c) : n < 16 := by
  rcases List.mem_cons.mp mem with rfl | mem
  · omega
  · obtain rfl := List.mem_singleton.mp mem
    omega

theorem channelChars_eq (c : Channel) :
    channelChars c = (channelDigits c).map Text.lowerHexDigit := by
  have high : c.val / 16 % 16 = c.val / 16 := by omega
  simp [channelChars, channelDigits, Text.hexDigits, high]

theorem channelOf_digits (c : Channel) : channelOf (c.val / 16) (c.val % 16) = c := by
  have whole : 16 * (c.val / 16) + c.val % 16 = c.val := by omega
  apply Fin.ext
  simp [channelOf, whole]

/-- The digits of a colour. -/
def hexDigits (c : Color) : List Nat :=
  channelDigits c.red ++ channelDigits c.green ++ channelDigits c.blue

theorem hexChars_eq (c : Color) : c.hexChars = '#' :: c.hexDigits.map Text.lowerHexDigit := by
  simp [hexChars, hexDigits, channelChars_eq]

theorem lt_of_mem_hexDigits {c : Color} {n : Nat} (mem : n ∈ c.hexDigits) : n < 16 := by
  rw [hexDigits, List.mem_append, List.mem_append] at mem
  rcases mem with (mem | mem) | mem <;> exact lt_of_mem_channelDigits mem

theorem ofDigits?_hexDigits (c : Color) : ofDigits? c.hexDigits = some c := by
  simp [hexDigits, channelDigits, ofDigits?, channelOf_digits]

theorem trimChars_hexChars (c : Color) : Text.trimChars c.hexChars = c.hexChars := by
  have mark : Text.isBlank '#' = false := by decide
  have last : Text.isBlank (Text.lowerHexDigit (c.blue.val % 16)) = false :=
    Text.isBlank_lowerHexDigit (by omega)
  have ends : c.hexChars = '#' :: ((channelDigits c.red ++ channelDigits c.green
      ++ [c.blue.val / 16]).map Text.lowerHexDigit)
        ++ [Text.lowerHexDigit (c.blue.val % 16)] := by
    simp [hexChars_eq, hexDigits, channelDigits]
  rw [ends, Text.trimChars_of_ends mark last]

theorem mapM_hexDigit? {digits : List Nat} (small : ∀ n ∈ digits, n < 16) :
    (digits.map Text.lowerHexDigit).mapM Text.hexDigit? = some digits := by
  induction digits with
  | nil => rfl
  | cons n digits ih =>
    rw [List.map_cons, List.mapM_cons, Text.hexDigit?_lowerHexDigit (small n List.mem_cons_self),
      ih fun m mem => small m (List.mem_cons_of_mem _ mem)]
    rfl

theorem ofChars?_hexChars (c : Color) : ofChars? c.hexChars = some c := by
  have read : (c.hexDigits.map Text.lowerHexDigit).mapM Text.hexDigit? = some c.hexDigits :=
    mapM_hexDigit? fun _ mem => lt_of_mem_hexDigits mem
  rw [ofChars?, trimChars_hexChars, hexChars_eq, dropMark, read]
  exact c.ofDigits?_hexDigits

theorem ofText?_hex (c : Color) : ofText? c.hex = some c := by
  rw [ofText?, hex, String.toList_ofList, ofChars?_hexChars]

theorem read_hex (field : String) (c : Color) : read field (.string c.hex) = .ok c := by
  rw [read, ofText?_hex]

theorem isEmpty_hex (c : Color) : c.hex.isEmpty = false := by
  simp [hex, hexChars]

end Color

end Vitae
