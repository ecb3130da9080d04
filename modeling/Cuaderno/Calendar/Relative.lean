import Cuaderno.Calendar.Clock
import Cuaderno.Calendar.Span
import Cuaderno.Text.Fold

/-!
# Relative dates

Words such as `@hoy` (today) or `@mes_pasado` (last month) name a span of days seen from the day of
evaluation. Weeks run from Sunday to Saturday. The words are compared by their keys, so case and
accents do not count; in some places the sign `@` may be left out.
-/

namespace Cuaderno

/-- A span of days seen from today. -/
inductive Relative where
  | today | yesterday | tomorrow | thisWeek | lastWeek | thisMonth | lastMonth
  deriving DecidableEq, Repr

namespace Relative

def all : List Relative := [today, yesterday, tomorrow, thisWeek, lastWeek, thisMonth, lastMonth]

def word : Relative → String
  | today => "hoy"
  | yesterday => "ayer"
  | tomorrow => "manana"
  | thisWeek => "esta_semana"
  | lastWeek => "semana_pasada"
  | thisMonth => "este_mes"
  | lastMonth => "mes_pasado"

def ofKey? (key : String) : Option Relative := all.find? (·.word == key)

def weekFrom? (start : Date) : Option Span := do
  return Span.ofDays start (← start.addDays? 6)

/-- The days that a relative date names; none when they leave the calendar. -/
def span? (r : Relative) (today : Date) : Option Span :=
  match r with
  | .today => some (Span.ofDay today)
  | .yesterday => (today.addDays? (-1)).map Span.ofDay
  | .tomorrow => (today.addDays? 1).map Span.ofDay
  | .thisWeek => do weekFrom? (← today.weekStart?)
  | .lastWeek => do weekFrom? (← (← today.weekStart?).addDays? (-7))
  | .thisMonth => do
    let start := today.monthStart
    -- No month has 32 days, so this day lies in the next one.
    let next := (← start.addDays? 32).monthStart
    return Span.ofDays start (← next.addDays? (-1))
  | .lastMonth => do
    let last ← today.monthStart.addDays? (-1)
    return Span.ofDays last.monthStart last

/-- The relative date that a text names, blanks around it aside. -/
def ofText? (signRequired : Bool) (cs : List Char) : Option Relative :=
  match Text.trim cs with
  | '@' :: word => ofKey? (String.ofList (Text.fold word))
  | word => if signRequired then none else ofKey? (String.ofList (Text.fold word))

theorem ofText?_trim (signRequired : Bool) (cs : List Char) :
    ofText? signRequired (Text.trim cs) = ofText? signRequired cs := by
  rw [ofText?, ofText?, Text.trim_trim]

def isNamedBy (cs : List Char) : Bool := (ofText? true cs).isSome

def resolve (signRequired : Bool) (cs : List Char) (clock : Clock) :
    Except Fault (Option Span) :=
  match ofText? signRequired cs with
  | none => .ok none
  | some r => do
    match r.span? (← clock.now).date with
    | some span => return some span
    | none => throw .outOfRange

theorem resolve_of_none {signRequired : Bool} {cs : List Char} {clock : Clock}
    (h : ofText? signRequired cs = none) : resolve signRequired cs clock = .ok none := by
  rw [resolve, h]

end Relative

end Cuaderno
