import Vitae.Text.Utf8

/-!
UTF-8 is read exactly. The bytes that are read as a text are those that the text is written as, and
no others are read.
-/

namespace Vitae.Text.Utf8

variable {bytes : Bytes} {low high value : Nat} {cs : List Char}

/-! Written characters -/

theorem toNat_ofNat {n : Nat} (valid : n.isValidChar) : (Char.ofNat n).toNat = n := by
  rw [Char.ofNat, dif_pos valid]
  rfl

theorem byte_eq {b : UInt8} {n : Nat} (same : n = b.toNat) : UInt8.ofNat n = b := by
  rw [same, UInt8.ofNat_toNat]

/-- The bytes of a character whose number is put together from bits. -/
theorem encodeChar_two {n : Nat} (least : 0x80 ≤ n) (most : n < 0x800) :
    encodeChar (Char.ofNat n) = [UInt8.ofNat (0xc0 + n / 64), UInt8.ofNat (0x80 + n % 64)] := by
  have valid : n.isValidChar := .inl (by omega)
  rw [encodeChar, toNat_ofNat valid, if_neg (by omega), if_pos most]

theorem encodeChar_three {n : Nat} (least : 0x800 ≤ n) (most : n < 0x10000)
    (valid : n.isValidChar) : encodeChar (Char.ofNat n)
      = [UInt8.ofNat (0xe0 + n / 4096), UInt8.ofNat (0x80 + n / 64 % 64),
        UInt8.ofNat (0x80 + n % 64)] := by
  rw [encodeChar, toNat_ofNat valid, if_neg (by omega), if_neg (by omega), if_pos most]

theorem encodeChar_four {n : Nat} (least : 0x10000 ≤ n) (valid : n.isValidChar) :
    encodeChar (Char.ofNat n)
      = [UInt8.ofNat (0xf0 + n / 262144), UInt8.ofNat (0x80 + n / 4096 % 64),
        UInt8.ofNat (0x80 + n / 64 % 64), UInt8.ofNat (0x80 + n % 64)] := by
  rw [encodeChar, toNat_ofNat valid, if_neg (by omega), if_neg (by omega), if_neg (by omega)]

/-! Unfinished characters -/

theorem decodeFrom_pending_cons (p : Pending) (b : UInt8) (rest : Bytes) :
    decodeFrom (some p) (b :: rest) =
      if p.accepts b then
        match p.next b with
        | .char c => (decodeFrom none rest).map (c :: ·)
        | .pending q => decodeFrom (some q) rest
        | .broken => none
      else none := by
  by_cases inside : p.accepts b
  · cases next : p.next b <;> simp [decodeFrom, inside, next]
  · simp [decodeFrom, inside]

theorem accepts_iff {owed : Nat} {b : UInt8} :
    (Pending.mk owed low high value).accepts b ↔ low ≤ b.toNat ∧ b.toNat ≤ high := by
  simp [Pending.accepts]

/-- One more byte, and the character is finished. -/
theorem decodeFrom_last : decodeFrom (some ⟨1, low, high, value⟩) bytes = some cs ↔
    ∃ b rest later, bytes = b :: rest ∧ (low ≤ b.toNat ∧ b.toNat ≤ high)
      ∧ decodeFrom none rest = some later
      ∧ cs = Char.ofNat (value * 64 + b.toNat % 64) :: later := by
  constructor
  · intro read
    cases bytes with
    | nil => cases read
    | cons b rest =>
      rw [decodeFrom_pending_cons] at read
      split at read
      · next inside =>
        obtain ⟨later, found, rfl⟩ := Option.map_eq_some_iff.mp read
        exact ⟨b, rest, later, rfl, accepts_iff.mp inside, found, rfl⟩
      · cases read
  · rintro ⟨b, rest, later, rfl, inside, read, rfl⟩
    rw [decodeFrom_pending_cons, if_pos (accepts_iff.mpr inside)]
    exact Option.map_eq_some_iff.mpr ⟨later, read, rfl⟩

/-- One more byte, and others are owed. -/
theorem decodeFrom_more {owed : Nat} :
    decodeFrom (some ⟨owed + 2, low, high, value⟩) bytes = some cs ↔
      ∃ b rest, bytes = b :: rest ∧ (low ≤ b.toNat ∧ b.toNat ≤ high)
        ∧ decodeFrom (some ⟨owed + 1, 0x80, 0xbf, value * 64 + b.toNat % 64⟩) rest = some cs := by
  have next (b : UInt8) : (Pending.mk (owed + 2) low high value).next b
      = .pending ⟨owed + 1, 0x80, 0xbf, value * 64 + b.toNat % 64⟩ := by
    rw [Pending.next]
    exact if_neg (show ¬ owed + 2 ≤ 1 by omega)
  constructor
  · intro read
    cases bytes with
    | nil => cases read
    | cons b rest =>
      rw [decodeFrom_pending_cons, next] at read
      split at read
      · next inside => exact ⟨b, rest, rfl, accepts_iff.mp inside, read⟩
      · cases read
  · rintro ⟨b, rest, rfl, inside, read⟩
    rw [decodeFrom_pending_cons, if_pos (accepts_iff.mpr inside), next]
    exact read

/-! Characters -/

theorem decodeFrom_none_cons (b : UInt8) (rest : Bytes) : decodeFrom none (b :: rest) =
    match opening b with
    | .char c => (decodeFrom none rest).map (c :: ·)
    | .pending q => decodeFrom (some q) rest
    | .broken => none := by
  cases first : opening b <;> simp [decodeFrom, first]

theorem opening_one {b : UInt8} (most : b.toNat < 0x80) :
    opening b = .char (Char.ofNat b.toNat) := by
  rw [opening, if_pos most]

theorem opening_two {b : UInt8} (least : 0xc2 ≤ b.toNat) (most : b.toNat < 0xe0) :
    opening b = .pending ⟨1, 0x80, 0xbf, b.toNat % 32⟩ := by
  rw [opening, if_neg (by omega), if_neg (by omega), if_pos most]

theorem opening_three {b : UInt8} (least : 0xe0 ≤ b.toNat) (most : b.toNat < 0xf0) :
    opening b = .pending ⟨2, if b.toNat = 0xe0 then 0xa0 else 0x80,
      if b.toNat = 0xed then 0x9f else 0xbf, b.toNat % 16⟩ := by
  rw [opening, if_neg (by omega), if_neg (by omega), if_neg (by omega)]
  by_cases short : b.toNat = 0xe0
  · simp [short]
  · by_cases surrogate : b.toNat = 0xed
    · simp [surrogate]
    · simp [short, surrogate, most]

theorem opening_four {b : UInt8} (least : 0xf0 ≤ b.toNat) (most : b.toNat ≤ 0xf4) :
    opening b = .pending ⟨3, if b.toNat = 0xf0 then 0x90 else 0x80,
      if b.toNat = 0xf4 then 0x8f else 0xbf, b.toNat % 8⟩ := by
  rw [opening, if_neg (by omega), if_neg (by omega), if_neg (by omega), if_neg (by omega),
    if_neg (by omega), if_neg (by omega)]
  by_cases short : b.toNat = 0xf0
  · simp [short]
  · by_cases last : b.toNat = 0xf4
    · simp [last]
    · have middle : b.toNat < 0xf4 := by omega
      simp [short, last, middle]

theorem opening_broken {b : UInt8}
    (outside : 0x80 ≤ b.toNat ∧ b.toNat < 0xc2 ∨ 0xf4 < b.toNat) : opening b = .broken := by
  rw [opening]
  rcases outside with ⟨least, most⟩ | least
  · rw [if_neg (by omega), if_pos most]
  · rw [if_neg (by omega), if_neg (by omega), if_neg (by omega), if_neg (by omega),
      if_neg (by omega), if_neg (by omega), if_neg (by omega), if_neg (by omega),
      if_neg (by omega)]

theorem toNat_byte {n : Nat} (small : n < 256) : (UInt8.ofNat n).toNat = n := by
  simp [small]

/-- What is read of the bytes of a character and others behind them. -/
theorem decodeFrom_encodeChar (c : Char) {rest : Bytes} (read : decodeFrom none rest = some cs) :
    decodeFrom none (encodeChar c ++ rest) = some (c :: cs) := by
  have whole : Char.ofNat c.toNat = c := Char.ofNat_toNat c
  have valid : c.toNat.isValidChar := c.valid
  generalize c.toNat = n at whole valid
  subst whole
  have numbers : n < 0xd800 ∨ 0xdfff < n ∧ n < 0x110000 := valid
  by_cases one : n < 0x80
  · have first := toNat_byte (n := n) (by omega)
    rw [encodeChar, toNat_ofNat valid, if_pos one, List.singleton_append, decodeFrom_none_cons,
      opening_one (by omega), first]
    exact Option.map_eq_some_iff.mpr ⟨cs, read, rfl⟩
  by_cases two : n < 0x800
  · have first := toNat_byte (n := 0xc0 + n / 64) (by omega)
    have second := toNat_byte (n := 0x80 + n % 64) (by omega)
    rw [encodeChar_two (by omega) two, List.cons_append, List.cons_append, List.nil_append,
      decodeFrom_none_cons, opening_two (by omega) (by omega)]
    refine decodeFrom_last.mpr ⟨_, rest, cs, rfl, by omega, read, ?_⟩
    have number : (UInt8.ofNat (0xc0 + n / 64)).toNat % 32 * 64
        + (UInt8.ofNat (0x80 + n % 64)).toNat % 64 = n := by omega
    rw [number]
  by_cases three : n < 0x10000
  · have first := toNat_byte (n := 0xe0 + n / 4096) (by omega)
    have second := toNat_byte (n := 0x80 + n / 64 % 64) (by omega)
    have third := toNat_byte (n := 0x80 + n % 64) (by omega)
    rw [encodeChar_three (by omega) three valid, List.cons_append, List.cons_append,
      List.cons_append, List.nil_append, decodeFrom_none_cons,
      opening_three (by omega) (by omega)]
    refine decodeFrom_more.mpr ⟨_, _, rfl, ?_,
      decodeFrom_last.mpr ⟨_, rest, cs, rfl, by omega, read, ?_⟩⟩
    · constructor <;> split <;> omega
    · have number : ((UInt8.ofNat (0xe0 + n / 4096)).toNat % 16 * 64
          + (UInt8.ofNat (0x80 + n / 64 % 64)).toNat % 64) * 64
          + (UInt8.ofNat (0x80 + n % 64)).toNat % 64 = n := by omega
      rw [number]
  · have first := toNat_byte (n := 0xf0 + n / 262144) (by omega)
    have second := toNat_byte (n := 0x80 + n / 4096 % 64) (by omega)
    have third := toNat_byte (n := 0x80 + n / 64 % 64) (by omega)
    have fourth := toNat_byte (n := 0x80 + n % 64) (by omega)
    rw [encodeChar_four (by omega) valid, List.cons_append, List.cons_append, List.cons_append,
      List.cons_append, List.nil_append, decodeFrom_none_cons, opening_four (by omega) (by omega)]
    refine decodeFrom_more.mpr ⟨_, _, rfl, ?_, decodeFrom_more.mpr ⟨_, _, rfl, by omega,
      decodeFrom_last.mpr ⟨_, rest, cs, rfl, by omega, read, ?_⟩⟩⟩
    · constructor <;> split <;> omega
    · have number : (((UInt8.ofNat (0xf0 + n / 262144)).toNat % 8 * 64
          + (UInt8.ofNat (0x80 + n / 4096 % 64)).toNat % 64) * 64
          + (UInt8.ofNat (0x80 + n / 64 % 64)).toNat % 64) * 64
          + (UInt8.ofNat (0x80 + n % 64)).toNat % 64 = n := by omega
      rw [number]

theorem decodeFrom_encodeChars (cs : List Char) : decodeFrom none (encodeChars cs) = some cs := by
  induction cs with
  | nil => rfl
  | cons c cs ih => exact decodeFrom_encodeChar c ih

/-- The first character that is read was written. -/
theorem exists_of_decodeFrom_cons {b : UInt8} (read : decodeFrom none (b :: bytes) = some cs) :
    ∃ c rest later, b :: bytes = encodeChar c ++ rest ∧ decodeFrom none rest = some later
      ∧ cs = c :: later := by
  have bound : b.toNat < 256 := b.toNat_lt
  rw [decodeFrom_none_cons] at read
  by_cases one : b.toNat < 0x80
  · rw [opening_one one] at read
    obtain ⟨later, found, rfl⟩ := Option.map_eq_some_iff.mp read
    refine ⟨_, bytes, later, ?_, found, rfl⟩
    rw [encodeChar, toNat_ofNat (.inl (by omega)), if_pos one, UInt8.ofNat_toNat]
    rfl
  by_cases outside : b.toNat < 0xc2 ∨ 0xf4 < b.toNat
  · rw [opening_broken (by omega)] at read
    cases read
  by_cases two : b.toNat < 0xe0
  · rw [opening_two (by omega) two] at read
    obtain ⟨second, rest, later, rfl, inside, found, rfl⟩ := decodeFrom_last.mp read
    refine ⟨_, rest, later, ?_, found, rfl⟩
    rw [encodeChar_two (by omega) (by omega), byte_eq (b := b) (by omega),
      byte_eq (b := second) (by omega)]
    rfl
  by_cases three : b.toNat < 0xf0
  · rw [opening_three (by omega) three] at read
    obtain ⟨second, rest, rfl, inside, read⟩ := decodeFrom_more.mp read
    obtain ⟨third, rest, later, rfl, tail, found, rfl⟩ := decodeFrom_last.mp read
    -- The range of the second byte keeps short forms and surrogates out.
    have range : (0x80 ≤ second.toNat ∧ second.toNat ≤ 0xbf)
        ∧ (b.toNat = 0xe0 → 0xa0 ≤ second.toNat) ∧ (b.toNat = 0xed → second.toNat ≤ 0x9f) := by
      split at inside <;> split at inside <;> omega
    have valid : ((b.toNat % 16 * 64 + second.toNat % 64) * 64 + third.toNat % 64).isValidChar := by
      unfold Nat.isValidChar
      omega
    refine ⟨_, rest, later, ?_, found, rfl⟩
    rw [encodeChar_three (by omega) (by omega) valid, byte_eq (b := b) (by omega),
      byte_eq (b := second) (by omega), byte_eq (b := third) (by omega)]
    rfl
  · rw [opening_four (by omega) (by omega)] at read
    obtain ⟨second, rest, rfl, inside, read⟩ := decodeFrom_more.mp read
    obtain ⟨third, rest, rfl, middle, read⟩ := decodeFrom_more.mp read
    obtain ⟨fourth, rest, later, rfl, tail, found, rfl⟩ := decodeFrom_last.mp read
    have range : (0x80 ≤ second.toNat ∧ second.toNat ≤ 0xbf)
        ∧ (b.toNat = 0xf0 → 0x90 ≤ second.toNat) ∧ (b.toNat = 0xf4 → second.toNat ≤ 0x8f) := by
      split at inside <;> split at inside <;> omega
    have valid : (((b.toNat % 8 * 64 + second.toNat % 64) * 64 + third.toNat % 64) * 64
        + fourth.toNat % 64).isValidChar := by
      unfold Nat.isValidChar
      omega
    refine ⟨_, rest, later, ?_, found, rfl⟩
    rw [encodeChar_four (by omega) valid, byte_eq (b := b) (by omega),
      byte_eq (b := second) (by omega), byte_eq (b := third) (by omega),
      byte_eq (b := fourth) (by omega)]
    rfl

/-- Whatever bytes are read, they are those of the text. -/
theorem encodeChars_of_decodeFrom (read : decodeFrom none bytes = some cs) :
    encodeChars cs = bytes := by
  induction cs generalizing bytes with
  | nil =>
    cases bytes with
    | nil => rfl
    | cons b bytes =>
      obtain ⟨c, rest, later, -, -, same⟩ := exists_of_decodeFrom_cons read
      cases same
  | cons c cs ih =>
    cases bytes with
    | nil => cases read
    | cons b bytes =>
      obtain ⟨first, rest, later, same, found, whole⟩ := exists_of_decodeFrom_cons read
      obtain ⟨rfl, rfl⟩ := List.cons.inj whole
      rw [same, encodeChars, List.flatMap_cons]
      exact congrArg _ (ih found)

/-- The bytes of a text are read as that text, and what is read as a text are its bytes. -/
theorem decode?_eq_some_iff {s : String} : decode? bytes = some s ↔ bytes = encode s := by
  rw [decode?, Option.map_eq_some_iff, encode]
  constructor
  · rintro ⟨cs, read, rfl⟩
    rw [String.toList_ofList, encodeChars_of_decodeFrom read]
  · rintro rfl
    exact ⟨s.toList, decodeFrom_encodeChars _, String.ofList_toList⟩

end Vitae.Text.Utf8
