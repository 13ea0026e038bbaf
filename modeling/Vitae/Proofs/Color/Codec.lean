import Mathlib.Data.List.Basic
import Vitae.Proofs.Color
import Vitae.Proofs.Fault

/-!
The canonical form of colours. A text is read as a colour just if it has the form of one, and every
colour has one text, which is what all its forms are normalized to.
-/

namespace Vitae

/-! Digits -/

namespace Text

/-- A hexadecimal digit of either case. -/
def isHexDigit (c : Char) : Bool :=
  ('0' ≤ c && c ≤ '9') || ('a' ≤ c && c ≤ 'f') || ('A' ≤ c && c ≤ 'F')

/-- A hexadecimal digit in lower case. -/
def isLowerHexDigit (c : Char) : Bool := ('0' ≤ c && c ≤ '9') || ('a' ≤ c && c ≤ 'f')

/-- The hexadecimal digits of both cases. -/
def hexAlphabet : List Char := "0123456789abcdefABCDEF".toList

/-- What holds of the characters counted from the first of a range holds of all of it. -/
theorem of_range {P : Char → Prop} {first last : Char}
    (each : ∀ k ≤ last.toNat - first.toNat, P (Char.ofNat (first.toNat + k))) {c : Char}
    (low : first ≤ c) (high : c ≤ last) : P c := by
  have low : first.toNat ≤ c.toNat := low
  have high : c.toNat ≤ last.toNat := high
  have own := each (c.toNat - first.toNat) (by omega)
  rwa [Nat.add_sub_cancel' low, Char.ofNat_toNat] at own

theorem mem_hexAlphabet {c : Char} (h : isHexDigit c) : c ∈ hexAlphabet := by
  simp only [isHexDigit, Bool.or_eq_true, Bool.and_eq_true, decide_eq_true_eq] at h
  rcases h with (⟨low, high⟩ | ⟨low, high⟩) | ⟨low, high⟩
  · exact of_range (by decide) low high
  · exact of_range (by decide) low high
  · exact of_range (by decide) low high

/-- A digit is read as a number below 16, which is written as the digit in lower case. -/
theorem exists_hexDigit? {c : Char} (h : isHexDigit c) :
    ∃ n < 16, hexDigit? c = some n ∧ lowerHexDigit n = c.toLower := by
  have each : hexAlphabet.Forall fun c =>
      ∃ n < 16, hexDigit? c = some n ∧ lowerHexDigit n = c.toLower := by decide
  exact List.forall_iff_forall_mem.mp each c (mem_hexAlphabet h)

theorem isHexDigit_of_hexDigit? {c : Char} {n : Nat} (h : hexDigit? c = some n) :
    isHexDigit c := by
  unfold hexDigit? at h
  split at h
  · next decimal => simp [isHexDigit, decimal]
  · split at h
    · next lower => simp [isHexDigit, lower]
    · split at h
      · next upper => simp [isHexDigit, upper]
      · cases h

theorem isLowerHexDigit_lowerHexDigit {n : Nat} (small : n < 16) :
    isLowerHexDigit (lowerHexDigit n) := by
  have each : ∀ n < 16, isLowerHexDigit (lowerHexDigit n) = true := by decide
  exact each n small

end Text

namespace Color

/-! The form of colours -/

/-- Three or six digits, behind a mark or not. -/
structure IsHexForm (cs digits : List Char) : Prop where
  marked : cs = digits ∨ cs = '#' :: digits
  count : digits.length = 3 ∨ digits.length = 6
  hex : ∀ c ∈ digits, Text.isHexDigit c

/-- A text that has the form of a colour, apart from white space around it. -/
def IsHexColor : Json → Prop
  | .string s => ∃ digits, IsHexForm (Text.trimChars s.toList) digits
  | _ => False

/-- Three digits are short for six. -/
def fullDigits {α : Type} (digits : List α) : List α :=
  if digits.length = 3 then digits.flatMap fun d => [d, d] else digits

/-- A mark and six digits in lower case. -/
def IsNormal (text : String) : Prop :=
  ∃ digits, text.toList = '#' :: digits ∧ digits.length = 6
    ∧ ∀ c ∈ digits, Text.isLowerHexDigit c

theorem fullDigits_map {α β : Type} (f : α → β) (digits : List α) :
    fullDigits (digits.map f) = (fullDigits digits).map f := by
  unfold fullDigits
  rw [List.length_map]
  split
  · simp [List.flatMap_map, List.map_flatMap]
  · rfl

theorem dropMark_of_form {cs digits : List Char} (h : IsHexForm cs digits) :
    dropMark cs = digits := by
  rcases h.marked with rfl | rfl
  · cases cs with
    | nil => rfl
    | cons c rest =>
      have other : c ≠ '#' := by
        rintro rfl
        exact absurd (h.hex '#' List.mem_cons_self) (by decide)
      unfold dropMark
      split
      · next same => exact absurd (List.cons.inj same).1 other
      · rfl
  · rfl

theorem eq_or_eq_dropMark (cs : List Char) : cs = dropMark cs ∨ cs = '#' :: dropMark cs := by
  unfold dropMark
  split
  · exact .inr rfl
  · exact .inl rfl

/-- Digits are read as numbers, which are written as the same digits in lower case. -/
theorem exists_mapM_hexDigit? {digits : List Char} (hex : ∀ c ∈ digits, Text.isHexDigit c) :
    ∃ numbers, digits.mapM Text.hexDigit? = some numbers ∧ (∀ n ∈ numbers, n < 16)
      ∧ numbers.map Text.lowerHexDigit = digits.map Char.toLower := by
  induction digits with
  | nil => exact ⟨[], rfl, by simp, rfl⟩
  | cons c rest ih =>
    obtain ⟨n, small, read, written⟩ := Text.exists_hexDigit? (hex c List.mem_cons_self)
    obtain ⟨numbers, readAll, smallAll, writtenAll⟩ :=
      ih fun d mem => hex d (List.mem_cons_of_mem _ mem)
    refine ⟨n :: numbers, ?_, List.forall_mem_cons.mpr ⟨small, smallAll⟩, ?_⟩
    · rw [List.mapM_cons, read, readAll]
      rfl
    · rw [List.map_cons, List.map_cons, written, writtenAll]

theorem forall_isHexDigit_of_mapM {digits : List Char} {numbers : List Nat}
    (h : digits.mapM Text.hexDigit? = some numbers) :
    numbers.length = digits.length ∧ ∀ c ∈ digits, Text.isHexDigit c := by
  induction digits generalizing numbers with
  | nil =>
    obtain rfl : numbers = [] := by simpa using h.symm
    simp
  | cons c rest ih =>
    rw [List.mapM_cons] at h
    obtain ⟨n, read, h⟩ := Option.bind_eq_some_iff.mp h
    obtain ⟨others, readAll, h⟩ := Option.bind_eq_some_iff.mp h
    obtain rfl : n :: others = numbers := Option.some.inj h
    obtain ⟨count, hex⟩ := ih readAll
    exact ⟨by simp [count],
      List.forall_mem_cons.mpr ⟨Text.isHexDigit_of_hexDigit? read, hex⟩⟩

/-- A channel of two digits is written as these. -/
theorem channelDigits_channelOf {high low : Nat} (hh : high < 16) (hl : low < 16) :
    channelDigits (channelOf high low) = [high, low] := by
  have same : (channelOf high low).val = 16 * high + low := Nat.mod_eq_of_lt (by omega)
  rw [channelDigits, same]
  congr 1
  · omega
  · congr 1
    omega

/-- Three or six small numbers are the digits of a colour. -/
theorem exists_ofDigits? {numbers : List Nat} (count : numbers.length = 3 ∨ numbers.length = 6)
    (small : ∀ n ∈ numbers, n < 16) :
    ∃ c, ofDigits? numbers = some c ∧ c.hexDigits = fullDigits numbers := by
  match numbers, count with
  | [r, g, b], _ =>
    simp only [List.forall_mem_cons] at small
    obtain ⟨hr, hg, hb, -⟩ := small
    exact ⟨_, rfl, by simp [hexDigits, channelDigits_channelOf, hr, hg, hb, fullDigits]⟩
  | [r, r', g, g', b, b'], _ =>
    simp only [List.forall_mem_cons] at small
    obtain ⟨hr, hr', hg, hg', hb, hb', -⟩ := small
    exact ⟨_, rfl, by
      simp [hexDigits, channelDigits_channelOf, hr, hr', hg, hg', hb, hb', fullDigits]⟩

theorem length_of_ofDigits? {numbers : List Nat} {c : Color} (h : ofDigits? numbers = some c) :
    numbers.length = 3 ∨ numbers.length = 6 := by
  unfold ofDigits? at h
  split at h
  · exact .inl rfl
  · exact .inr rfl
  · cases h

/-- What has the form of a colour is read, and written with all its digits in lower case. -/
theorem exists_ofChars?_of_form {cs digits : List Char}
    (h : IsHexForm (Text.trimChars cs) digits) :
    ∃ c, ofChars? cs = some c ∧ c.hexChars = '#' :: (fullDigits digits).map Char.toLower := by
  obtain ⟨numbers, read, small, written⟩ := exists_mapM_hexDigit? h.hex
  have count : numbers.length = 3 ∨ numbers.length = 6 :=
    (forall_isHexDigit_of_mapM read).1 ▸ h.count
  obtain ⟨c, made, full⟩ := exists_ofDigits? count small
  refine ⟨c, ?_, ?_⟩
  · rw [ofChars?, dropMark_of_form h, read]
    exact made
  · rw [hexChars_eq, full, ← fullDigits_map, written, fullDigits_map]

/-- What is read has the form of a colour. -/
theorem exists_form_of_ofChars? {cs : List Char} {c : Color} (h : ofChars? cs = some c) :
    ∃ digits, IsHexForm (Text.trimChars cs) digits := by
  obtain ⟨numbers, read, made⟩ := Option.bind_eq_some_iff.mp h
  obtain ⟨count, hex⟩ := forall_isHexDigit_of_mapM read
  exact ⟨dropMark (Text.trimChars cs), eq_or_eq_dropMark _, count ▸ length_of_ofDigits? made, hex⟩

/-! Reading and writing -/

/-- The text of a colour that is given in any of its forms. -/
def normalize (field : String) (value : Json) : Checked String := (read field value).map hex

/-- The channels of a colour that is given in any of its forms. -/
def levels (value : Json) : Checked (Nat × Nat × Nat) :=
  (read unnamed value).map fun c => (c.red.val, c.green.val, c.blue.val)

/-- A value of any other form is refused, with a message that names the field. -/
theorem read_of_not_isHexColor {value : Json} (h : ¬ IsHexColor value) (field : String) :
    ∃ cause, read field value = .error (.configuration cause) := by
  unfold read
  split
  · next s =>
    split
    · next c given => exact absurd (exists_form_of_ofChars? given) h
    · exact ⟨_, rfl⟩
  · exact ⟨_, rfl⟩

theorem exists_read {s : String} {digits : List Char}
    (h : IsHexForm (Text.trimChars s.toList) digits) :
    ∃ c, (∀ field, read field (.string s) = .ok c)
      ∧ c.hex = String.ofList ('#' :: (fullDigits digits).map Char.toLower) := by
  obtain ⟨c, given, written⟩ := exists_ofChars?_of_form h
  refine ⟨c, fun field => ?_, by rw [hex, written]⟩
  have text : ofText? s = some c := given
  rw [read, text]

theorem exists_read_of_isHexColor {value : Json} (h : IsHexColor value) :
    ∃ c, ∀ field, read field value = .ok c := by
  cases value with
  | string s =>
    obtain ⟨digits, form⟩ := h
    obtain ⟨c, given, -⟩ := exists_read form
    exact ⟨c, given⟩
  | _ => exact h.elim

/-- Colours with the same text are the same. -/
theorem hex_injective {c d : Color} (same : c.hex = d.hex) : c = d := by
  have read := ofText?_hex c
  rw [same, ofText?_hex] at read
  exact (Option.some.inj read).symm

theorem isNormal_hex (c : Color) : IsNormal c.hex := by
  refine ⟨c.hexDigits.map Text.lowerHexDigit, ?_, rfl, fun d mem => ?_⟩
  · rw [hex, String.toList_ofList, hexChars_eq]
  · obtain ⟨n, inside, rfl⟩ := List.mem_map.mp mem
    exact Text.isLowerHexDigit_lowerHexDigit (lt_of_mem_hexDigits inside)

theorem normalize_hex (field : String) (c : Color) :
    normalize field (.string c.hex) = .ok c.hex := by
  rw [normalize, read_hex]
  rfl

theorem levels_hex (c : Color) :
    levels (.string c.hex) = .ok (c.red.val, c.green.val, c.blue.val) := by
  rw [levels, read_hex]
  rfl

/-- A text in the form of a colour is normalized to all its digits in lower case. -/
theorem normalize_of_form {s : String} {digits : List Char}
    (h : IsHexForm (Text.trimChars s.toList) digits) (field : String) :
    normalize field (.string s)
      = .ok (String.ofList ('#' :: (fullDigits digits).map Char.toLower)) := by
  obtain ⟨c, given, written⟩ := exists_read h
  rw [normalize, given field, ← written]
  rfl

theorem normalize_of_isHexColor {value : Json} (h : IsHexColor value) (field : String) :
    ∃ text, normalize field value = .ok text ∧ IsNormal text
      ∧ ∀ other, normalize other (.string text) = .ok text := by
  obtain ⟨c, given⟩ := exists_read_of_isHexColor h
  refine ⟨c.hex, ?_, isNormal_hex c, fun other => normalize_hex other c⟩
  rw [normalize, given field]
  rfl

theorem normalize_of_not_isHexColor {value : Json} (h : ¬ IsHexColor value) (field : String) :
    ∃ cause, normalize field value = .error (.configuration cause) := by
  obtain ⟨cause, refused⟩ := read_of_not_isHexColor h field
  refine ⟨cause, ?_⟩
  rw [normalize, refused]
  rfl

/-- Two forms have one normal form just if they have the same channels. -/
theorem normalize_eq_iff {v w : Json} (hv : IsHexColor v) (hw : IsHexColor w) (field : String) :
    normalize field v = normalize field w ↔ levels v = levels w := by
  obtain ⟨c, first⟩ := exists_read_of_isHexColor hv
  obtain ⟨d, second⟩ := exists_read_of_isHexColor hw
  have texts : normalize field v = .ok c.hex ∧ normalize field w = .ok d.hex := by
    rw [normalize, normalize, first, second]
    exact ⟨rfl, rfl⟩
  have triples : levels v = .ok (c.red.val, c.green.val, c.blue.val)
      ∧ levels w = .ok (d.red.val, d.green.val, d.blue.val) := by
    rw [levels, levels, first, second]
    exact ⟨rfl, rfl⟩
  rw [texts.1, texts.2, triples.1, triples.2]
  constructor
  · intro same
    rw [hex_injective (Except.ok.inj same)]
  · intro same
    have parts := Except.ok.inj same
    simp only [Prod.mk.injEq, Fin.val_inj] at parts
    have one : c = d := by
      cases c
      cases d
      rw [Color.mk.injEq]
      exact parts
    rw [one]

end Color

end Vitae
