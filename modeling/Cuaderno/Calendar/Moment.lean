import Cuaderno.Calendar.Date

/-!
# Moments

A moment is a date and a time of day, to the microsecond and without a time zone: every moment of
the library is local time. Moments are ordered by the microseconds since the day before the first
date began.

A stamp is a moment with an optional offset from universal time. Local time is universal time, so
that the moment of a stamp is its own reading less the offset; it may leave the years 1 to 9999.
-/

namespace Cuaderno

def microsPerSecond : Nat := 1000000

def microsPerDay : Nat := 86400000000

/-- A time of day, in microseconds since midnight. -/
structure TimeOfDay where
  micros : Nat
  lt : micros < microsPerDay
  deriving DecidableEq, Repr

namespace TimeOfDay

def midnight : TimeOfDay := ⟨0, by decide⟩

def last : TimeOfDay := ⟨microsPerDay - 1, by decide⟩

/-- The time of an hour, a minute, a second and a microsecond, if there is one. -/
def of? (hour minute second micro : Nat) : Option TimeOfDay :=
  if h : hour < 24 ∧ minute < 60 ∧ second < 60 ∧ micro < microsPerSecond then
    some ⟨((hour * 60 + minute) * 60 + second) * microsPerSecond + micro, by
      simp only [microsPerSecond, microsPerDay] at *; omega⟩
  else none

def hour (t : TimeOfDay) : Nat := t.micros / (3600 * microsPerSecond)

def minute (t : TimeOfDay) : Nat := t.micros / (60 * microsPerSecond) % 60

def second (t : TimeOfDay) : Nat := t.micros / microsPerSecond % 60

def micro (t : TimeOfDay) : Nat := t.micros % microsPerSecond

def minuteText (t : TimeOfDay) : List Char :=
  Text.paddedText 2 t.hour ++ ':' :: Text.paddedText 2 t.minute

/-- The time to the second, and to the microsecond when it is not on a second. -/
def isoText (t : TimeOfDay) : List Char :=
  t.minuteText ++ ':' :: Text.paddedText 2 t.second ++
    (if t.micro = 0 then [] else '.' :: Text.paddedText 6 t.micro)

end TimeOfDay

/-- A date and a time of day, in local time. -/
structure Moment where
  date : Date
  time : TimeOfDay
  deriving DecidableEq, Repr

namespace Moment

def first : Moment := ⟨Date.first, .midnight⟩

def startOf (d : Date) : Moment := ⟨d, .midnight⟩

def endOf (d : Date) : Moment := ⟨d, .last⟩

/-- The microseconds since the day before the first date began. -/
def instant (m : Moment) : Int := (m.date.ordinal * microsPerDay + m.time.micros : Nat)

def ofInstant? (i : Int) : Option Moment :=
  (Date.ofOrdinal? (i / microsPerDay)).map fun d =>
    ⟨d, ⟨(i % microsPerDay).toNat, by
      have : (0 : Int) < microsPerDay := by decide
      have := Int.emod_lt_of_pos i this
      have := Int.emod_nonneg i (b := microsPerDay) (by decide)
      omega⟩⟩

instance : LE Moment := ⟨fun a b => a.instant ≤ b.instant⟩

instance : LT Moment := ⟨fun a b => a.instant < b.instant⟩

instance (a b : Moment) : Decidable (a ≤ b) := inferInstanceAs (Decidable (a.instant ≤ b.instant))

instance (a b : Moment) : Decidable (a < b) := inferInstanceAs (Decidable (a.instant < b.instant))

theorem le_def {a b : Moment} : a ≤ b ↔ a.instant ≤ b.instant := Iff.rfl

theorem lt_def {a b : Moment} : a < b ↔ a.instant < b.instant := Iff.rfl

def textWith (separator : Char) (m : Moment) : List Char :=
  m.date.isoText ++ separator :: m.time.isoText

def isoText (m : Moment) : List Char := m.textWith 'T'

def minuteText (m : Moment) : List Char := m.date.isoText ++ 'T' :: m.time.minuteText

/-- The text of a moment for people: the date alone when the clock stands at midnight. -/
def display (m : Moment) : List Char :=
  if m.time.micros < microsPerSecond then m.date.isoText else m.minuteText

end Moment

/-- A written moment: the reading of a clock, and perhaps its offset in microseconds from universal
time. -/
structure Stamp where
  reading : Moment
  offset : Option Int
  deriving DecidableEq, Repr

namespace Stamp

/-- The moment of a stamp in local time, if it lies in the years 1 to 9999. The zone of the system
is not modelled: local time is universal time. -/
def moment? (s : Stamp) : Option Moment :=
  match s.offset with
  | none => some s.reading
  | some offset => Moment.ofInstant? (s.reading.instant - offset)

@[simp] theorem moment?_of_none (m : Moment) : moment? ⟨m, none⟩ = some m := rfl

/-- An offset as signed hours and minutes, with seconds and microseconds when there are any. -/
def offsetText (offset : Int) : List Char :=
  let micros := offset.natAbs
  let seconds := micros / microsPerSecond
  let rest :=
    if micros % microsPerSecond = 0 then
      if seconds % 60 = 0 then [] else ':' :: Text.paddedText 2 (seconds % 60)
    else ':' :: Text.paddedText 2 (seconds % 60) ++
      '.' :: Text.paddedText 6 (micros % microsPerSecond)
  (if offset < 0 then '-' else '+') :: Text.paddedText 2 (seconds / 3600) ++
    ':' :: Text.paddedText 2 (seconds / 60 % 60) ++ rest

def textWith (separator : Char) (s : Stamp) : List Char :=
  s.reading.textWith separator ++ (s.offset.map offsetText).getD []

end Stamp

end Cuaderno
