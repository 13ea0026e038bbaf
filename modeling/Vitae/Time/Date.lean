/-!
Days of the Gregorian calendar, years 1 to 9999, and the weeks of a year. Week 1 is the week with
the year's first Thursday; weeks start on Monday.
-/

namespace Vitae.Time

def isLeap (year : Nat) : Bool := year % 4 == 0 && (year % 100 != 0 || year % 400 == 0)

def monthLengths (year : Nat) : List Nat :=
  [31, if isLeap year then 29 else 28, 31, 30, 31, 30, 31, 31, 30, 31, 30, 31]

def monthLength (year month : Nat) : Nat := ((monthLengths year)[month - 1]?).getD 0

def yearLength (year : Nat) : Nat := if isLeap year then 366 else 365

def isDate (year month day : Nat) : Bool :=
  1 ≤ year && year ≤ 9999 && 1 ≤ month && month ≤ 12 && 1 ≤ day && day ≤ monthLength year month

structure Date where
  year : Nat
  month : Nat
  day : Nat
  valid : isDate year month day = true := by decide
  deriving DecidableEq, Repr

def Date.of? (year month day : Nat) : Option Date :=
  if valid : isDate year month day = true then some ⟨year, month, day, valid⟩ else none

/-- The weekday of the first of January, Monday being 0. -/
def firstWeekday (year : Nat) : Nat :=
  let before := year - 1
  (365 * before + before / 4 - before / 100 + before / 400) % 7

def weekCount (year : Nat) : Nat :=
  if firstWeekday year = 3 || (firstWeekday year = 2 && isLeap year) then 53 else 52

/-- The month and the day of a month that a number of days past the start of the months falls on. -/
def monthDayFrom (month past : Nat) : List Nat → Option (Nat × Nat)
  | [] => none
  | length :: rest =>
    if past < length then some (month, past + 1) else monthDayFrom (month + 1) (past - length) rest

def Date.ofYearDay? (year past : Nat) : Option Date := do
  let (month, day) ← monthDayFrom 1 past (monthLengths year)
  Date.of? year month day

/-- The date of a day of a week. It may lie in the year before or after. -/
def Date.ofWeek? (year week day : Nat) : Option Date :=
  if 1 ≤ week && week ≤ weekCount year && 1 ≤ day && day ≤ 7 then
    let first := firstWeekday year
    let ahead := 7 * (week - 1) + (day - 1) + (if first ≤ 3 then 0 else 7)
    if ahead < first then Date.ofYearDay? (year - 1) (yearLength (year - 1) + ahead - first)
    else if ahead - first < yearLength year then Date.ofYearDay? year (ahead - first)
    else Date.ofYearDay? (year + 1) (ahead - first - yearLength year)
  else none

end Vitae.Time
