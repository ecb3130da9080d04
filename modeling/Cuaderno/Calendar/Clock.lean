import Cuaderno.Calendar.Moment
import Cuaderno.Fault

/-!
# The clock

Everything that depends on the time of day takes it from a clock: a given time of evaluation, or
the wall clock when none is given. Both are part of the input.
-/

namespace Cuaderno

/-- A time of evaluation, if one is given, and the reading of the wall clock. -/
structure Clock where
  given : Option Stamp
  wall : Moment
  deriving DecidableEq, Repr

/-- The local moment of a stamp, or a fault when it lies beyond the calendar. -/
def Stamp.moment (s : Stamp) : Except Fault Moment :=
  match s.moment? with
  | some m => .ok m
  | none => .error .outOfRange

def Clock.now (c : Clock) : Except Fault Moment :=
  match c.given with
  | some s => s.moment
  | none => .ok c.wall

/-- The clock that shows a moment, whatever the wall clock shows. -/
def Clock.at (c : Clock) (m : Moment) : Clock := ⟨some ⟨m, none⟩, c.wall⟩

def Clock.wallOnly (c : Clock) : Clock := ⟨none, c.wall⟩

end Cuaderno
