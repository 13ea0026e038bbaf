import Vitae.Text.Blank

/-!
Texts of code points. Besides characters these are the halves of surrogate pairs. Half of a pair
stands for no character, so a text with one in it has no UTF-8 form.
-/

namespace Vitae.Text

/-- A code point: a character, or half of a surrogate pair, counted from U+D800 on. -/
inductive CodePoint where
  | char (c : Char)
  | half (offset : Fin 0x800)
  deriving DecidableEq, Repr

/-- The code point with a number. -/
def CodePoint.ofNat (n : Nat) : CodePoint :=
  if h : 0xd800 ≤ n ∧ n ≤ 0xdfff then .half ⟨n - 0xd800, by omega⟩ else .char (Char.ofNat n)

/-- A text of code points: characters to its end, or up to half of a surrogate pair. -/
inductive Points where
  | chars (s : String)
  | halved (before : String) (offset : Fin 0x800) (rest : Points)
  deriving DecidableEq, Repr

namespace Points

instance : Coe String Points := ⟨.chars⟩

def ofCodesFrom (backwards : List Char) : List CodePoint → Points
  | [] => .chars (String.ofList backwards.reverse)
  | .char c :: rest => ofCodesFrom (c :: backwards) rest
  | .half offset :: rest =>
    .halved (String.ofList backwards.reverse) offset (ofCodesFrom [] rest)

def ofCodes (codes : List CodePoint) : Points := ofCodesFrom [] codes

/-- Half of a surrogate pair stands alone in a text. -/
def hasHalf : Points → Bool
  | .chars _ => false
  | .halved _ _ _ => true

/-- Nothing but white space, the empty text included. -/
def isBlank : Points → Bool
  | .chars s => isBlankText s
  | .halved _ _ _ => false

end Points

end Vitae.Text
