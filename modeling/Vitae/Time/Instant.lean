import Vitae.Time.Date
import Vitae.Text.Digit

/-!
Instants: a date, a time of day to the microsecond, and perhaps an offset from universal time.

Writing has one form. Reading takes it and several looser ones: dates without hyphens or by weeks,
any character between date and time, times without colons or cut short.
-/

namespace Vitae.Time

def isClock (hour minute second micro : Nat) : Bool :=
  hour < 24 && minute < 60 && second < 60 && micro < 1000000

/-- In microseconds; an offset is less than a day. -/
def isOffset (offset : Int) : Bool := offset.natAbs < 86400000000

structure Instant where
  date : Date
  hour : Nat
  minute : Nat
  second : Nat
  micro : Nat
  offset : Option Int
  clockValid : isClock hour minute second micro = true := by decide
  offsetValid : offset.all isOffset = true := by decide
  deriving DecidableEq, Repr

namespace Instant

/-- The start of the year 1970 in universal time. -/
def epoch : Instant :=
  { date := { year := 1970, month := 1, day := 1 }
    hour := 0, minute := 0, second := 0, micro := 0, offset := some 0 }

/-- The last `width` digits of a number. -/
def digits (width n : Nat) : List Char :=
  match width with
  | 0 => []
  | width + 1 => digits width (n / 10) ++ [Char.ofNat ('0'.toNat + n % 10)]

def fractionChars (micro : Nat) : List Char := if micro = 0 then [] else '.' :: digits 6 micro

def offsetChars (offset : Int) : List Char :=
  let seconds := offset.natAbs / 1000000
  let micro := offset.natAbs % 1000000
  (if offset < 0 then '-' else '+') :: digits 2 (seconds / 3600)
    ++ ':' :: digits 2 (seconds / 60 % 60)
    ++ (if seconds % 60 = 0 && micro = 0 then [] else ':' :: digits 2 (seconds % 60))
    ++ fractionChars micro

def chars (t : Instant) : List Char :=
  digits 4 t.date.year ++ '-' :: digits 2 t.date.month ++ '-' :: digits 2 t.date.day
    ++ 'T' :: digits 2 t.hour ++ ':' :: digits 2 t.minute ++ ':' :: digits 2 t.second
    ++ fractionChars t.micro ++ (t.offset.map offsetChars).getD []

def text (t : Instant) : String := String.ofList t.chars

/-- Reads exactly `width` digits. -/
def takeDigits (width value : Nat) (cs : List Char) : Option (Nat × List Char) :=
  match width with
  | 0 => some (value, cs)
  | width + 1 =>
    match cs with
    | [] => none
    | c :: rest => do takeDigits width (10 * value + (← Text.asciiDigit? c)) rest

def isDigit (c : Char) : Bool := (Text.asciiDigit? c).isSome

/-- The day of a week whose year and number have been read. The last digits may belong to the time,
with a hyphen or a digit for the character between: two digits after a hyphen are an hour, and
without hyphens an odd number of them, if it is more than one. -/
def readWeek (hyphens : Bool) (year week : Nat) (cs : List Char) : Option (Date × List Char) :=
  let withoutDay := (Date.ofWeek? year week 1).map fun date => (date, cs)
  let withDay := fun cs => do
    let (day, rest) ← takeDigits 1 0 cs
    return (← Date.ofWeek? year week day, rest)
  if hyphens then
    match cs with
    | '-' :: _ :: c :: _ => if isDigit c then withoutDay else withDay (cs.drop 1)
    | '-' :: rest => withDay rest
    | _ => withoutDay
  else
    let count := (cs.takeWhile isDigit).length
    if count = 1 || (count ≠ 0 && count % 2 = 0) then withDay cs else withoutDay

/-- Reads the date at the start and leaves the rest. -/
def readDate (cs : List Char) : Option (Date × List Char) := do
  let (year, rest) ← takeDigits 4 0 cs
  match rest with
  | '-' :: 'W' :: rest =>
    let (week, rest) ← takeDigits 2 0 rest
    readWeek true year week rest
  | 'W' :: rest =>
    let (week, rest) ← takeDigits 2 0 rest
    readWeek false year week rest
  | '-' :: rest =>
    let (month, rest) ← takeDigits 2 0 rest
    match rest with
    | '-' :: rest =>
      let (day, rest) ← takeDigits 2 0 rest
      return (← Date.of? year month day, rest)
    | _ => none
  | rest =>
    let (month, rest) ← takeDigits 2 0 rest
    let (day, rest) ← takeDigits 2 0 rest
    return (← Date.of? year month day, rest)

/-- Hours, minutes and seconds as far as they are written, microseconds, and what is left over. -/
structure ClockReading where
  parts : List Nat
  micro : Nat
  rest : List Char
  deriving DecidableEq, Repr

/-- A fraction of a second, of which the digits after the sixth are dropped. -/
def readFraction (parts : List Nat) (cs : List Char) : Option ClockReading := do
  let width := min 6 cs.length
  let (value, rest) ← takeDigits width 0 cs
  return ⟨parts, value * Nat.pow 10 (6 - width), rest.dropWhile isDigit⟩

/-- Reads two-digit parts. A colon after the first means colons between all of them, the last of
them standing for the point of a fraction too. One more ASCII character at the end is left over. -/
def readParts (hasColons : Bool) (parts : List Nat) (more : Nat) (cs : List Char) :
    Option ClockReading := do
  let (value, rest) ← takeDigits 2 0 cs
  let parts := parts ++ [value]
  match rest with
  | [] => return ⟨parts, 0, []⟩
  | [c] => if c.toNat < 128 then return ⟨parts, 0, [c]⟩ else none
  | c :: after =>
    let hasColons := if parts.length = 1 then c == ':' else hasColons
    let next := fun cs =>
      match more with
      | 0 => readFraction parts cs
      | more + 1 => readParts hasColons parts more cs
    if c == '.' || c == ',' then readFraction parts after
    else if !hasColons then next rest
    else if c == ':' then next after
    else none

def readClock (cs : List Char) : Option ClockReading := readParts false [] 2 cs

namespace ClockReading

def part (r : ClockReading) (i : Nat) : Nat := (r.parts[i]?).getD 0

/-- Nothing is left over; a null character ends a text. -/
def isComplete (r : ClockReading) : Bool :=
  match r.rest with
  | [] => true
  | c :: _ => c == '\x00'

def seconds (r : ClockReading) : Nat := 3600 * r.part 0 + 60 * r.part 1 + r.part 2

end ClockReading

def isSign (c : Char) : Bool := c == '+' || c == '-'

/-- Reads an offset. One of less than a second is read as zero. -/
def readOffset (negative : Bool) (cs : List Char) : Option Int := do
  let r ← readClock cs
  if !r.isComplete then none
  else if r.seconds = 0 then some 0
  else
    let size : Int := 1000000 * r.seconds + r.micro
    some (if negative then -size else size)

def of? (date : Date) (clock : ClockReading) (offset : Option Int) : Option Instant :=
  if clockValid : isClock (clock.part 0) (clock.part 1) (clock.part 2) clock.micro = true then
    if offsetValid : offset.all isOffset = true then
      some ⟨date, clock.part 0, clock.part 1, clock.part 2, clock.micro, offset, clockValid,
        offsetValid⟩
    else none
  else none

/-- Reads the time of day and the offset, if there is one. What is left over in front of an offset
is passed over. -/
def readTime (date : Date) (cs : List Char) : Option Instant := do
  let clock ← readClock (cs.takeWhile fun c => !isSign c)
  match cs.dropWhile fun c => !isSign c with
  | [] => if clock.isComplete then of? date clock none else none
  | sign :: offset => of? date clock (some (← readOffset (sign == '-') offset))

def ofChars? (cs : List Char) : Option Instant := do
  match ← readDate cs with
  | (date, []) => of? date ⟨[], 0, []⟩ none
  | (date, _ :: time) => readTime date time

/-- `Z` stands for an offset of zero wherever it is. -/
def spellOutZulu (cs : List Char) : List Char :=
  cs.flatMap fun c => if c == 'Z' then "+00:00".toList else [c]

def ofText? (s : String) : Option Instant := ofChars? (spellOutZulu s.toList)

end Instant

end Vitae.Time
