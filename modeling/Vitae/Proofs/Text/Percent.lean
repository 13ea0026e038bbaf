import Vitae.Proofs.Text.Utf8
import Vitae.Text.Percent

/-!
Percent encoding leaves nothing but letters and digits of ASCII, four marks, and bytes in capital
hexadecimal digits behind a percent sign. Decoding gives back the characters that were encoded.
-/

namespace Vitae.Text

/-- A digit of a byte that is written as its number. -/
def isCapitalHexDigit (c : Char) : Bool := c.isDigit || ('A' ≤ c && c ≤ 'F')

theorem upperHexDigit_spec {n : Nat} (small : n < 16) :
    isCapitalHexDigit (upperHexDigit n) ∧ hexDigit? (upperHexDigit n) = some n := by
  have each : ∀ n : Fin 16, isCapitalHexDigit (upperHexDigit n) = true
      ∧ hexDigit? (upperHexDigit n) = some n.val := by decide
  exact each ⟨n, small⟩

namespace Percent

/-- A character that is never encoded. -/
def isPlain (c : Char) : Bool :=
  ('a' ≤ c && c ≤ 'z') || ('A' ≤ c && c ≤ 'Z') || c.isDigit || ['_', '.', '-', '~'].contains c

/-- Plain characters and bytes as `%XX`, in any order. -/
inductive IsEncoded : List Char → Prop where
  | nil : IsEncoded []
  | plain (c : Char) (rest : List Char) (plain : isPlain c) (later : IsEncoded rest) :
    IsEncoded (c :: rest)
  | byte (high low : Char) (rest : List Char) (first : isCapitalHexDigit high)
    (second : isCapitalHexDigit low) (later : IsEncoded rest) :
    IsEncoded ('%' :: high :: low :: rest)

theorem IsEncoded.append {cs others : List Char} (h : IsEncoded cs) (h' : IsEncoded others) :
    IsEncoded (cs ++ others) := by
  induction h with
  | nil => exact h'
  | plain c rest plain _ ih => exact .plain c _ plain ih
  | byte high low rest first second _ ih => exact .byte high low _ first second ih

theorem isPlain_of_isCapitalHexDigit {c : Char} (h : isCapitalHexDigit c) : isPlain c := by
  simp only [isCapitalHexDigit, isPlain, Bool.or_eq_true, Bool.and_eq_true, decide_eq_true_eq]
    at h ⊢
  rcases h with digit | ⟨least, most⟩
  · exact .inl (.inr digit)
  · exact .inl (.inl (.inr ⟨least, Char.le_trans most (by decide)⟩))

theorem IsEncoded.eq_of_mem {cs : List Char} (h : IsEncoded cs) {c : Char} (mem : c ∈ cs) :
    isPlain c ∨ c = '%' := by
  induction h with
  | nil => exact absurd mem List.not_mem_nil
  | plain first rest plain _ ih =>
    rcases List.mem_cons.mp mem with rfl | mem
    · exact .inl plain
    · exact ih mem
  | byte high low rest first second _ ih =>
    simp only [List.mem_cons] at mem
    rcases mem with rfl | rfl | rfl | mem
    · exact .inr rfl
    · exact .inl (isPlain_of_isCapitalHexDigit first)
    · exact .inl (isPlain_of_isCapitalHexDigit second)
    · exact ih mem

/-! Bytes -/

theorem isUnreserved_spec {n : Nat} (unreserved : isUnreserved n) :
    n < 128 ∧ isPlain (Char.ofNat n) ∧ Char.ofNat n ≠ '%' := by
  have small : n < 128 := by
    simp only [isUnreserved, Bool.or_eq_true, Bool.and_eq_true, decide_eq_true_eq, beq_iff_eq]
      at unreserved
    omega
  have each : ∀ n : Fin 128, isUnreserved n = true →
      isPlain (Char.ofNat n) = true ∧ Char.ofNat n ≠ '%' := by decide +kernel
  exact ⟨small, each ⟨n, small⟩ unreserved⟩

theorem isEncoded_encodeByte (byte : UInt8) : IsEncoded (encodeByte byte) := by
  have bound : byte.toNat < 256 := byte.toNat_lt
  unfold encodeByte
  dsimp only
  split
  · next unreserved => exact .plain _ _ (isUnreserved_spec unreserved).2.1 .nil
  · exact .byte _ _ _ (upperHexDigit_spec (by omega)).1 (upperHexDigit_spec (by omega)).1 .nil

/-- An encoded byte is decoded, whatever stands behind it. -/
theorem decodeBytes?_encodeByte (byte : UInt8) (rest : List Char) :
    decodeBytes? (encodeByte byte ++ rest) = (decodeBytes? rest).map (byte :: ·) := by
  have bound : byte.toNat < 256 := byte.toNat_lt
  unfold encodeByte
  dsimp only
  split
  · next unreserved =>
    obtain ⟨small, -, other⟩ := isUnreserved_spec unreserved
    have number : (Char.ofNat byte.toNat).toNat = byte.toNat :=
      Utf8.toNat_ofNat (.inl (by omega))
    have single := decodeBytes?.eq_3 (Char.ofNat byte.toNat) rest
      fun _ _ _ same => absurd same other
    rw [List.singleton_append, single, number, if_pos unreserved, UInt8.ofNat_toNat]
    cases decodeBytes? rest <;> rfl
  · have high := (upperHexDigit_spec (show byte.toNat / 16 < 16 by omega)).2
    have low := (upperHexDigit_spec (show byte.toNat % 16 < 16 by omega)).2
    have whole : UInt8.ofNat (16 * (byte.toNat / 16) + byte.toNat % 16) = byte :=
      Utf8.byte_eq (by omega)
    simp only [List.cons_append, List.nil_append, decodeBytes?, high, low, Option.bind_eq_bind,
      Option.bind_some, whole]
    cases decodeBytes? rest <;> rfl

/-! Texts -/

theorem isEncoded_flatMap (bytes : Utf8.Bytes) : IsEncoded (bytes.flatMap encodeByte) := by
  induction bytes with
  | nil => exact .nil
  | cons byte bytes ih => exact (isEncoded_encodeByte byte).append ih

theorem isEncoded_encodeChars (cs : List Char) : IsEncoded (encodeChars cs) :=
  isEncoded_flatMap _

theorem decodeBytes?_flatMap (bytes : Utf8.Bytes) :
    decodeBytes? (bytes.flatMap encodeByte) = some bytes := by
  induction bytes with
  | nil => rfl
  | cons byte bytes ih => rw [List.flatMap_cons, decodeBytes?_encodeByte, ih, Option.map_some]

theorem decodeBytes?_encodeChars (cs : List Char) :
    decodeBytes? (encodeChars cs) = some (Utf8.encodeChars cs) :=
  decodeBytes?_flatMap _

/-- Decoding undoes encoding. -/
theorem decodeChars?_encodeChars (cs : List Char) : decodeChars? (encodeChars cs) = some cs := by
  rw [decodeChars?, decodeBytes?_encodeChars]
  exact Utf8.decodeFrom_encodeChars cs

end Percent

end Vitae.Text
