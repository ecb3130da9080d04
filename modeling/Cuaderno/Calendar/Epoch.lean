import Cuaderno.Calendar.Moment
import Cuaderno.Fault
import Cuaderno.Number.Basic

/-!
# Time stamps in milliseconds

A time stamp counts the milliseconds since the start of 1970. It is read as a number of seconds,
whole seconds and a fraction that is rounded to microseconds, a half to the even one.
-/

namespace Cuaderno.Epoch

def start : Int := 719163 * microsPerDay

/-- The seconds that the clock of the system can count, in a signed word of 64 bits. -/
def inClock (seconds : Int) : Bool :=
  -9223372036854775808 ≤ seconds && seconds < 9223372036854775808

/-- The seconds whose year the clock of the system can name. -/
def inCalendar (seconds : Int) : Bool :=
  -67768040609740800 ≤ seconds && seconds < 67768036191676800

def yearOf (instant : Int) : Int := Date.yearAfter (instant / microsPerDay - 1)

/-- The whole seconds and the microseconds of a finite number of seconds given in units. -/
def split (units : Int) : Int × Int :=
  let whole := units.tdiv Number.unit
  let fraction := units.tmod Number.unit
  -- The product is a number itself, so it is rounded before its own rounding to a whole.
  let micros := match (Number.ofUnits (fraction < 0) (fraction.natAbs * microsPerSecond) 1) with
    | .nan => 0
    | .real negative rank _ =>
      let n : Int := Number.roundDiv (Number.units rank) Number.unit
      if negative then -n else n
  if (microsPerSecond : Int) ≤ micros then (whole + 1, micros - microsPerSecond)
  else if micros < 0 then (whole - 1, micros + microsPerSecond)
  else (whole, micros)

/-- The moment of a number of seconds since the start of 1970, local time being universal time. The
day before it must lie in the calendar too, since a change of the clock is looked for there. -/
def ofSeconds (x : Number) : Except Fault Moment :=
  match x.signedUnits? with
  | none => if x = .nan then .error (.invalid .notANumber) else .error .outOfRange
  | some units =>
    let (seconds, micros) := split units
    if !inClock seconds then .error .outOfRange
    else if !inCalendar seconds then .error .beyondClock
    else
      let instant := start + seconds * microsPerSecond + micros
      let year := yearOf instant
      if year < 1 || 9999 < year then .error (.invalid (.yearOutOfRange year))
      else
        let before := yearOf (instant - microsPerDay)
        if before < 1 then .error (.invalid (.yearOutOfRange before))
        else match Moment.ofInstant? instant with
          | some m => .ok m
          | none => .error .outOfRange

def ofMillis (n : Int) : Except Fault Moment :=
  let seconds := Number.ofUnits (n < 0) (n.natAbs * Number.unit) 1000
  if seconds.isFinite then ofSeconds seconds else .error .outOfRange

def ofNumber (x : Number) : Except Fault Moment := ofSeconds (x.divCount 1000)

end Cuaderno.Epoch
