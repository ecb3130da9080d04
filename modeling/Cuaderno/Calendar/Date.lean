import Cuaderno.Text.Digit

/-!
# Dates

The dates of the years 1 to 9999, in the Gregorian calendar carried back to year 1. The ordinal of
a date counts the days from the first one, which has ordinal 1; all arithmetic on dates is
arithmetic on ordinals, and leaving the years 1 to 9999 gives no date.
-/

namespace Cuaderno

def isLeapYear (year : Nat) : Bool := year % 4 = 0 && (year % 100 ≠ 0 || year % 400 = 0)

def daysInMonth (year month : Nat) : Nat :=
  if month = 2 then if isLeapYear year then 29 else 28
  else if month = 4 || month = 6 || month = 9 || month = 11 then 30 else 31

/-- A date of the years 1 to 9999. -/
structure Date where
  year : Nat
  month : Nat
  day : Nat
  valid : (1 ≤ year ∧ year ≤ 9999) ∧ (1 ≤ month ∧ month ≤ 12) ∧
    1 ≤ day ∧ day ≤ daysInMonth year month
  deriving DecidableEq, Repr

namespace Date

def of? (year month day : Nat) : Option Date :=
  if h : (1 ≤ year ∧ year ≤ 9999) ∧ (1 ≤ month ∧ month ≤ 12) ∧
      1 ≤ day ∧ day ≤ daysInMonth year month
  then some ⟨year, month, day, h⟩ else none

@[simp] theorem of?_self (d : Date) : of? d.year d.month d.day = some d := dif_pos d.valid

theorem of?_eq_some {year month day : Nat} {d : Date} (h : of? year month day = some d) :
    d.year = year ∧ d.month = month ∧ d.day = day := by
  unfold of? at h
  split at h
  · cases h; exact ⟨rfl, rfl, rfl⟩
  · cases h

def first : Date := ⟨1, 1, 1, by decide⟩

def daysBeforeYear (year : Nat) : Nat :=
  (year - 1) * 365 + (year - 1) / 4 - (year - 1) / 100 + (year - 1) / 400

def daysThroughMonth (year : Nat) : Nat → Nat
  | 0 => 0
  | month + 1 => daysThroughMonth year month + daysInMonth year (month + 1)

/-- The number of a date, counted from the first one. -/
def ordinal (d : Date) : Nat :=
  daysBeforeYear d.year + daysThroughMonth d.year (d.month - 1) + d.day

/-- The ordinal of the last date, 31 December of year 9999. -/
def lastOrdinal : Nat := 3652059

/-- The year of the day that comes `days` days after the first one, or before it when negative.

The length of the 400-year cycle gives the year up to one; the days before it decide. -/
def yearAfter (days : Int) : Int :=
  let inCycle := (days % 146097).toNat
  let guess := inCycle * 400 / 146097 + 1
  let year :=
    if inCycle < daysBeforeYear guess then guess - 1
    else if daysBeforeYear (guess + 1) ≤ inCycle then guess + 1 else guess
  days / 146097 * 400 + year

def ofOrdinal? (n : Int) : Option Date :=
  if n < 1 then none
  else
    let year := (yearAfter (n - 1)).toNat
    let rest := (n - 1).toNat - daysBeforeYear year
    let month := (List.range 12).countP (daysThroughMonth year · ≤ rest)
    of? year month (rest - daysThroughMonth year (month - 1) + 1)

/-- The date some days later, or earlier when negative, if there is one. -/
def addDays? (d : Date) (days : Int) : Option Date := ofOrdinal? (d.ordinal + days)

/-- The day of the week, Monday being 0. -/
def weekday (d : Date) : Nat := (d.ordinal + 6) % 7

def monthStart (d : Date) : Date :=
  ⟨d.year, d.month, 1, d.valid.1, d.valid.2.1, Nat.le_refl _, by
    have := d.valid.2.2; omega⟩

/-- The Sunday that opens the week of a date, if there is one. -/
def weekStart? (d : Date) : Option Date := d.addDays? (-(((d.weekday + 1) % 7 : Nat) : Int))

def isoText (d : Date) : List Char :=
  Text.paddedText 4 d.year ++ '-' :: Text.paddedText 2 d.month ++ '-' :: Text.paddedText 2 d.day

/-- The Monday of the first week of a year: the week that holds the year's first Thursday. -/
def firstMonday (year : Nat) : Int :=
  let start := daysBeforeYear year + 1
  let weekday := (start + 6) % 7
  (start : Int) - weekday + (if 3 < weekday then 7 else 0)

/-- Whether a year has 53 weeks: it starts on a Thursday, or on a Wednesday when it is long. -/
def hasWeek53 (year : Nat) : Bool :=
  let weekday := (daysBeforeYear year + 7) % 7
  weekday == 3 || (weekday == 2 && isLeapYear year)

/-- The date of a day in a week of a year, Monday being day 1, if there is one. -/
def ofWeek? (year week day : Nat) : Option Date :=
  if 1 ≤ year ∧ year ≤ 9999 ∧ 1 ≤ week ∧ (week ≤ 52 ∨ (week = 53 ∧ hasWeek53 year)) ∧
      1 ≤ day ∧ day ≤ 7
  then ofOrdinal? (firstMonday year + (week - 1) * 7 + day - 1) else none

end Date

end Cuaderno
