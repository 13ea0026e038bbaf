import Mathlib.Algebra.Group.Nat.Defs
import Vitae.Time.Instant

/-!
Instants and their texts. Reading the text of an instant gives the instant back, whether or not it
tells an offset, microseconds or the seconds of its offset. Only an offset of less than a second is
lost.
-/

namespace Vitae.Time.Instant

/-! Digits -/

theorem asciiDigit?_ofNat {n : Nat} (h : n < 10) :
    Text.asciiDigit? (Char.ofNat ('0'.toNat + n)) = some n := by
  have each : ∀ n < 10, Text.asciiDigit? (Char.ofNat ('0'.toNat + n)) = some n := by decide
  exact each n h

theorem length_digits (width n : Nat) : (digits width n).length = width := by
  induction width generalizing n with
  | zero => rfl
  | succ width ih => simp [digits, ih]

theorem isDigit_of_mem_digits {width n : Nat} {c : Char} (mem : c ∈ digits width n) :
    isDigit c := by
  induction width generalizing n with
  | zero => simp [digits] at mem
  | succ width ih =>
    rw [digits, List.mem_append] at mem
    rcases mem with mem | mem
    · exact ih mem
    · obtain rfl := List.mem_singleton.mp mem
      rw [isDigit, asciiDigit?_ofNat (Nat.mod_lt n (by decide))]
      rfl

theorem takeDigits_add (width more value : Nat) (cs : List Char) :
    takeDigits (width + more) value cs
      = takeDigits width value cs >>= fun read => takeDigits more read.1 read.2 := by
  induction width generalizing value cs with
  | zero =>
    rw [Nat.zero_add]
    rfl
  | succ width ih =>
    rw [Nat.succ_add]
    cases cs with
    | nil => rfl
    | cons c cs =>
      rw [takeDigits, takeDigits]
      cases Text.asciiDigit? c with
      | none => rfl
      | some d => exact ih _ cs

/-- The last digits of a number that has no more of them are read as that number. -/
theorem takeDigits_digits (width : Nat) {n : Nat} (h : n < 10 ^ width) (value : Nat)
    (rest : List Char) :
    takeDigits width value (digits width n ++ rest) = some (value * 10 ^ width + n, rest) := by
  induction width generalizing n rest with
  | zero =>
    obtain rfl : n = 0 := by simpa using h
    simp [takeDigits, digits]
  | succ width ih =>
    have fewer : n / 10 < 10 ^ width := by
      rw [Nat.pow_succ] at h
      omega
    have whole : 10 * (value * 10 ^ width + n / 10) + n % 10 = value * 10 ^ (width + 1) + n := by
      rw [Nat.pow_succ, ← Nat.mul_assoc]
      omega
    have last : takeDigits 1 (value * 10 ^ width + n / 10)
        (Char.ofNat ('0'.toNat + n % 10) :: rest) = some (value * 10 ^ (width + 1) + n, rest) := by
      rw [takeDigits, asciiDigit?_ofNat (Nat.mod_lt n (by decide)), ← whole]
      rfl
    rw [digits, List.append_assoc, takeDigits_add, ih fewer]
    exact last

/-! The time of day -/

theorem readFraction_digits (parts : List Nat) {micro : Nat} (h : micro < 1000000) :
    readFraction parts (digits 6 micro) = some ⟨parts, micro, []⟩ := by
  have read := takeDigits_digits 6 h 0 []
  rw [List.append_nil] at read
  simp [readFraction, length_digits, read]

theorem readParts_colon {value : Nat} (h : value < 100) {hasColons : Bool} {parts : List Nat}
    (colons : parts = [] ∨ hasColons = true) (more : Nat) {rest : List Char} (goesOn : rest ≠ []) :
    readParts hasColons parts (more + 1) (digits 2 value ++ ':' :: rest)
      = readParts true (parts ++ [value]) more rest := by
  obtain ⟨c, rest, rfl⟩ := List.exists_cons_of_ne_nil goesOn
  rw [readParts, takeDigits_digits 2 h]
  rcases colons with rfl | rfl <;> simp

/-- The last part of a time of day, with or without a fraction. -/
theorem readParts_seconds {value micro : Nat} (h : value < 100) (h' : micro < 1000000)
    (hasColons : Bool) (parts : List Nat) (more : Nat) :
    readParts hasColons parts more (digits 2 value ++ fractionChars micro)
      = some ⟨parts ++ [value], micro, []⟩ := by
  rw [readParts, takeDigits_digits 2 h, fractionChars]
  split
  · next none =>
    subst none
    simp
  · have some : digits 6 micro ≠ [] := by
      rw [← List.length_pos_iff, length_digits]
      decide
    obtain ⟨c, rest, same⟩ := List.exists_cons_of_ne_nil some
    have read := readFraction_digits (parts ++ [value]) h'
    rw [same] at read
    simp [same, read]

theorem digits_ne_nil (width n : Nat) (rest : List Char) : digits (width + 1) n ++ rest ≠ [] := by
  rw [← List.length_pos_iff, List.length_append, length_digits]
  omega

/-- Hours, minutes and seconds with colons between them. -/
theorem readClock_seconds {hour minute second micro : Nat} (hours : hour < 100)
    (minutes : minute < 100) (seconds : second < 100) (micros : micro < 1000000) :
    readClock (digits 2 hour ++ ':' :: (digits 2 minute
        ++ ':' :: (digits 2 second ++ fractionChars micro)))
      = some ⟨[hour, minute, second], micro, []⟩ := by
  rw [readClock, readParts_colon hours (.inl rfl) 1 (digits_ne_nil 1 minute _),
    readParts_colon minutes (.inr rfl) 0 (digits_ne_nil 1 second _),
    readParts_seconds seconds micros]
  rfl

/-- Hours and minutes alone. -/
theorem readClock_minutes {hour minute : Nat} (hours : hour < 100) (minutes : minute < 100) :
    readClock (digits 2 hour ++ ':' :: digits 2 minute) = some ⟨[hour, minute], 0, []⟩ := by
  have last := readParts_seconds minutes (by decide : 0 < 1000000) true [hour] 1
  have none : fractionChars 0 = [] := rfl
  have some : digits 2 minute ≠ [] := by simpa using digits_ne_nil 1 minute []
  rw [none, List.append_nil] at last
  rw [readClock, readParts_colon hours (.inl rfl) 1 some, List.nil_append, last]
  rfl

/-! The offset -/

/-- The sign of an offset, and what is read behind it. -/
def offsetSign (offset : Int) : Char := if offset < 0 then '-' else '+'

def offsetSize (offset : Int) : List Char :=
  let seconds := offset.natAbs / 1000000
  let micro := offset.natAbs % 1000000
  digits 2 (seconds / 3600) ++ ':' :: (digits 2 (seconds / 60 % 60)
    ++ if seconds % 60 = 0 ∧ micro = 0 then []
      else ':' :: (digits 2 (seconds % 60) ++ fractionChars micro))

theorem offsetChars_eq (offset : Int) :
    offsetChars offset = offsetSign offset :: offsetSize offset := by
  unfold offsetChars offsetSign offsetSize
  by_cases short : offset.natAbs / 1000000 % 60 = 0 ∧ offset.natAbs % 1000000 = 0
  · simp [short, fractionChars]
  · have long : ¬(offset.natAbs / 1000000 % 60 = 0 ∧ offset.natAbs % 1000000 = 0) := short
    simp [long]

theorem readClock_offsetSize (offset : Int) (h : offset.natAbs < 86400000000) :
    ∃ r : ClockReading, readClock (offsetSize offset) = some r ∧ r.rest = []
      ∧ r.seconds = offset.natAbs / 1000000 ∧ r.micro = offset.natAbs % 1000000 := by
  have hours : offset.natAbs / 1000000 / 3600 < 100 := by omega
  have minutes : offset.natAbs / 1000000 / 60 % 60 < 100 := by omega
  unfold offsetSize
  dsimp only
  split
  · next short =>
    refine ⟨_, by rw [List.append_nil, readClock_minutes hours minutes], rfl, ?_, short.2.symm⟩
    show 3600 * (offset.natAbs / 1000000 / 3600) + 60 * (offset.natAbs / 1000000 / 60 % 60) + 0 = _
    omega
  · refine ⟨_, readClock_seconds hours minutes (by omega) (by omega), rfl, ?_, rfl⟩
    show 3600 * (offset.natAbs / 1000000 / 3600) + 60 * (offset.natAbs / 1000000 / 60 % 60)
      + offset.natAbs / 1000000 % 60 = _
    omega

/-- What is left of an offset when it is read. -/
def readableOffset (offset : Int) : Int := if offset.natAbs < 1000000 then 0 else offset

theorem readOffset_offsetSize {offset : Int} (h : isOffset offset = true) :
    readOffset (offsetSign offset == '-') (offsetSize offset)
      = some (readableOffset offset) := by
  obtain ⟨r, read, whole, seconds, micro⟩ :=
    readClock_offsetSize offset (of_decide_eq_true h)
  have complete : r.isComplete = true := by simp [ClockReading.isComplete, whole]
  have size : (1000000 * r.seconds + r.micro : Int) = offset.natAbs := by
    rw [seconds, micro]
    omega
  have negative : (offsetSign offset == '-') = decide (offset < 0) := by
    unfold offsetSign
    split <;> simp [*]
  rw [readOffset, read, readableOffset]
  show (if !r.isComplete then none else if r.seconds = 0 then some 0 else _) = some _
  rw [complete, negative]
  by_cases nothing : r.seconds = 0
  · have short : offset.natAbs < 1000000 := by omega
    simp [nothing, short]
  · have long : ¬ offset.natAbs < 1000000 := by omega
    rw [if_neg (by simp), if_neg nothing, if_neg long]
    dsimp only
    rw [size]
    by_cases behind : offset < 0
    · have below : offset ≤ 0 := Int.le_of_lt behind
      rw [if_pos (by simpa using behind), Int.ofNat_natAbs_of_nonpos below, Int.neg_neg]
    · rw [if_neg (by simpa using behind), Int.natAbs_of_nonneg (Int.not_lt.mp behind)]

/-! The date -/

def dateChars (d : Date) : List Char :=
  digits 4 d.year ++ '-' :: (digits 2 d.month ++ '-' :: digits 2 d.day)

theorem of?_eq_some (d : Date) : Date.of? d.year d.month d.day = some d := by
  rw [Date.of?, dif_pos d.valid]

theorem monthLength_le (year month : Nat) : monthLength year month ≤ 31 := by
  unfold monthLength
  cases found : (monthLengths year)[month - 1]? with
  | none => simp
  | some length =>
    have mem := List.mem_of_getElem? found
    simp only [monthLengths, List.mem_cons, List.not_mem_nil, or_false] at mem
    rw [Option.getD_some]
    split at mem <;> omega

/-- Digits begin with no letter, so a month is not taken for a week. -/
theorem exists_cons_digits (width n : Nat) (rest : List Char) :
    ∃ c cs, digits (width + 1) n ++ rest = c :: cs ∧ c ≠ 'W' := by
  have some : digits (width + 1) n ≠ [] := by simpa using digits_ne_nil width n []
  obtain ⟨c, cs, same⟩ := List.exists_cons_of_ne_nil some
  have digit : isDigit c = true := isDigit_of_mem_digits (same ▸ List.mem_cons_self)
  refine ⟨c, cs ++ rest, by rw [same, List.cons_append], ?_⟩
  rintro rfl
  exact absurd digit (by decide)

theorem readDate_dateChars (d : Date) (rest : List Char) :
    readDate (dateChars d ++ rest) = some (d, rest) := by
  have valid := d.valid
  have length := monthLength_le d.year d.month
  simp only [isDate, Bool.and_eq_true, decide_eq_true_eq] at valid
  obtain ⟨c, cs, first, noWeek⟩ := exists_cons_digits 1 d.month ('-' :: (digits 2 d.day ++ rest))
  have year := takeDigits_digits 4 (by omega : d.year < 10000) 0 ('-' :: c :: cs)
  have month := takeDigits_digits 2 (by omega : d.month < 100) 0 ('-' :: (digits 2 d.day ++ rest))
  have day := takeDigits_digits 2 (by omega : d.day < 100) 0 rest
  rw [first, Nat.zero_mul, Nat.zero_add] at month
  rw [Nat.zero_mul, Nat.zero_add] at year day
  have whole : dateChars d ++ rest = digits 4 d.year ++ '-' :: c :: cs := by
    rw [← first]
    simp [dateChars]
  rw [whole, readDate, year]
  simp only [Option.bind_eq_bind, Option.bind_some]
  split
  · next same =>
    simp only [List.cons.injEq, true_and] at same
    exact absurd same.1 noWeek
  · next same => simp at same
  · next same =>
    simp only [List.cons.injEq, true_and] at same
    subst same
    simp [month, day, of?_eq_some]
  · next other => exact absurd rfl (other _)

/-! The whole -/

def clockChars (t : Instant) : List Char :=
  digits 2 t.hour ++ ':' :: (digits 2 t.minute
    ++ ':' :: (digits 2 t.second ++ fractionChars t.micro))

def offsetPart (t : Instant) : List Char := (t.offset.map offsetChars).getD []

theorem chars_eq (t : Instant) :
    t.chars = dateChars t.date ++ 'T' :: (t.clockChars ++ t.offsetPart) := by
  simp [chars, dateChars, clockChars, offsetPart]

/-- Characters of a time of day. -/
def isClockChar (c : Char) : Bool := isDigit c || c == ':' || c == '.'

theorem isClockChar_of_mem_digits {width n : Nat} {c : Char} (mem : c ∈ digits width n) :
    isClockChar c := by
  simp [isClockChar, isDigit_of_mem_digits mem]

theorem isClockChar_of_mem_fractionChars {micro : Nat} {c : Char} (mem : c ∈ fractionChars micro) :
    isClockChar c := by
  unfold fractionChars at mem
  split at mem
  · cases mem
  · rcases List.mem_cons.mp mem with rfl | mem
    · rfl
    · exact isClockChar_of_mem_digits mem

theorem isClockChar_of_mem_clockChars {t : Instant} {c : Char} (mem : c ∈ t.clockChars) :
    isClockChar c := by
  simp only [clockChars, List.mem_append, List.mem_cons] at mem
  rcases mem with mem | rfl | mem | rfl | mem | mem
  · exact isClockChar_of_mem_digits mem
  · rfl
  · exact isClockChar_of_mem_digits mem
  · rfl
  · exact isClockChar_of_mem_digits mem
  · exact isClockChar_of_mem_fractionChars mem

theorem isClockChar_of_mem_offsetSize {offset : Int} {c : Char} (mem : c ∈ offsetSize offset) :
    isClockChar c := by
  simp only [offsetSize, List.mem_append, List.mem_cons] at mem
  rcases mem with mem | rfl | mem | mem
  · exact isClockChar_of_mem_digits mem
  · rfl
  · exact isClockChar_of_mem_digits mem
  · split at mem
    · cases mem
    · rcases List.mem_cons.mp mem with rfl | mem
      · rfl
      · rcases List.mem_append.mp mem with mem | mem
        · exact isClockChar_of_mem_digits mem
        · exact isClockChar_of_mem_fractionChars mem

theorem isSign_of_isClockChar {c : Char} (h : isClockChar c) : isSign c = false := by
  have plus : isClockChar '+' = false := by decide
  have minus : isClockChar '-' = false := by decide
  rw [isSign, Bool.or_eq_false_iff, beq_eq_false_iff_ne, beq_eq_false_iff_ne]
  constructor
  · rintro rfl
    simp [plus] at h
  · rintro rfl
    simp [minus] at h

theorem isSign_offsetSign (offset : Int) : isSign (offsetSign offset) := by
  unfold offsetSign
  split <;> rfl

/-- No letter but the one between date and time is written. -/
theorem zulu_not_mem_chars (t : Instant) : 'Z' ∉ t.chars := by
  have apart : isClockChar 'Z' = false := by decide
  have clock {cs : List Char} (all : ∀ c ∈ cs, isClockChar c) : 'Z' ∉ cs := by
    intro mem
    rw [all 'Z' mem] at apart
    cases apart
  have date : 'Z' ∉ dateChars t.date := by
    simp only [dateChars, List.mem_append, List.mem_cons, not_or]
    exact ⟨clock fun _ => isClockChar_of_mem_digits, by decide,
      clock fun _ => isClockChar_of_mem_digits, by decide,
      clock fun _ => isClockChar_of_mem_digits⟩
  have offset : 'Z' ∉ t.offsetPart := by
    unfold offsetPart
    cases t.offset with
    | none => exact List.not_mem_nil
    | some offset =>
      rw [Option.map_some, Option.getD_some, offsetChars_eq, List.mem_cons, not_or]
      refine ⟨fun same => ?_, clock fun _ => isClockChar_of_mem_offsetSize⟩
      have sign := isSign_offsetSign offset
      rw [← same] at sign
      exact absurd sign (by decide)
  rw [chars_eq, List.mem_append, List.mem_cons, List.mem_append]
  simp [date, offset, clock fun _ => isClockChar_of_mem_clockChars]

theorem spellOutZulu_of_not_mem {cs : List Char} (h : 'Z' ∉ cs) : spellOutZulu cs = cs := by
  induction cs with
  | nil => rfl
  | cons c cs ih =>
    rw [List.mem_cons, not_or] at h
    have other : (c == 'Z') = false := by simpa using Ne.symm h.1
    rw [spellOutZulu, List.flatMap_cons, other]
    exact congrArg (c :: ·) (ih h.2)

theorem isOffset_readableOffset {offset : Int} (h : isOffset offset = true) :
    isOffset (readableOffset offset) = true := by
  unfold readableOffset
  split
  · rfl
  · exact h

theorem all_isOffset_readableOffset {offset : Option Int} (h : offset.all isOffset = true) :
    (offset.map readableOffset).all isOffset = true := by
  cases offset with
  | none => rfl
  | some offset => exact isOffset_readableOffset h

/-- An instant as it is read from its text. -/
def asRead (t : Instant) : Instant :=
  { t with
    offset := t.offset.map readableOffset
    offsetValid := all_isOffset_readableOffset t.offsetValid }

/-- An instant whose offset, if it has one, is zero or at least a second long. -/
def IsLasting (t : Instant) : Prop :=
  ∀ offset ∈ t.offset, offset = 0 ∨ 1000000 ≤ offset.natAbs

theorem asRead_eq_self_iff {t : Instant} : t.asRead = t ↔ t.IsLasting := by
  have offsets : t.asRead = t ↔ t.offset.map readableOffset = t.offset := by
    constructor
    · exact fun same => congrArg Instant.offset same
    · intro same
      obtain ⟨date, hour, minute, second, micro, offset, clockValid, offsetValid⟩ := t
      simpa [asRead] using same
  rw [offsets, IsLasting]
  cases t.offset with
  | none => simp
  | some offset =>
    simp only [Option.map_some, Option.some.injEq, Option.mem_def, forall_eq', readableOffset]
    split <;> omega

theorem of?_eq_some_asRead (t : Instant) :
    of? t.date ⟨[t.hour, t.minute, t.second], t.micro, []⟩ (t.offset.map readableOffset)
      = some t.asRead :=
  (dif_pos t.clockValid).trans (dif_pos (all_isOffset_readableOffset t.offsetValid))

theorem readTime_chars (t : Instant) :
    readTime t.date (t.clockChars ++ t.offsetPart) = some t.asRead := by
  have valid := t.clockValid
  simp only [isClock, Bool.and_eq_true, decide_eq_true_eq] at valid
  have clock : readClock t.clockChars = some ⟨[t.hour, t.minute, t.second], t.micro, []⟩ :=
    readClock_seconds (by omega) (by omega) (by omega) (by omega)
  have unsigned : ∀ c ∈ t.clockChars, (!isSign c) = true := by
    intro c mem
    rw [isSign_of_isClockChar (isClockChar_of_mem_clockChars mem)]
    rfl
  rw [readTime, List.takeWhile_append_of_pos unsigned, List.dropWhile_append_of_pos unsigned]
  unfold offsetPart
  cases given : t.offset with
  | none =>
    have made := t.of?_eq_some_asRead
    rw [given, Option.map_none] at made
    simp [clock, ClockReading.isComplete, made]
  | some offset =>
    have made := t.of?_eq_some_asRead
    have offsetValid : isOffset offset = true := by simpa [given] using t.offsetValid
    rw [given, Option.map_some] at made
    simp [offsetChars_eq, isSign_offsetSign, clock, readOffset_offsetSize offsetValid, made]

/-- Reading undoes writing, but for an offset of less than a second. -/
theorem ofText?_text (t : Instant) : ofText? t.text = some t.asRead := by
  rw [ofText?, text, String.toList_ofList, spellOutZulu_of_not_mem t.zulu_not_mem_chars, chars_eq,
    ofChars?, readDate_dateChars]
  exact t.readTime_chars

theorem isEmpty_text (t : Instant) : t.text.isEmpty = false := by
  simp [text, chars_eq]

end Vitae.Time.Instant
