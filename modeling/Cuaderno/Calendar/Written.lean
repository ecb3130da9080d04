import Cuaderno.Calendar.Iso
import Cuaderno.Calendar.Relative

/-!
# Dates as people write them

A typed date is a relative date (with or without its sign), a standard date or time, or a day, a
month and a year in this order. A typed span is a relative date with its sign, the single moment of
a text with a colon in it, or the whole day of any other date.
-/

namespace Cuaderno.Written

open Cuaderno.Text (decimalValue? ofDigits)

/-- Splits off at most `limit` decimal digits, of any script. -/
def digits : Nat → List Char → List Nat × List Char
  | limit + 1, c :: cs =>
    match decimalValue? c with
    | some d => let (ds, rest) := digits limit cs; (d :: ds, rest)
    | none => ([], c :: cs)
  | _, cs => ([], cs)

def number? (limit : Nat) (cs : List Char) : Option (Nat × List Char) :=
  match digits limit cs with
  | ([], _) => none
  | (ds, rest) => some (ofDigits ds, rest)

def fixedNumber? (width : Nat) (cs : List Char) : Option (Nat × List Char) :=
  match digits width cs with
  | (ds, rest) => if ds.length = width then some (ofDigits ds, rest) else none

def separator? : List Char → Option (List Char)
  | c :: cs => if c = '/' || c = '-' then some cs else none
  | [] => none

/-- The hour and the minute behind a date; midnight when nothing follows. -/
def dayTime? : List Char → Option (Nat × Nat)
  | [] => some (0, 0)
  | c :: cs => do
    if c = ' ' || c = 'T' then
      let (hour, rest) ← number? 2 cs
      match rest with
      | ':' :: rest =>
        let (minute, rest) ← fixedNumber? 2 rest
        if rest.isEmpty then return (hour, minute) else none
      | _ => none
    else none

/-- The moment that a text writes with the day first: day, month, year, and perhaps a time. -/
def dayFirst? (cs : List Char) : Option Moment := do
  let (day, rest) ← number? 2 cs
  let (month, rest) ← number? 2 (← separator? rest)
  let (year, rest) ← fixedNumber? 4 (← separator? rest)
  let (hour, minute) ← dayTime? rest
  let date ← Date.of? year month day
  let time ← TimeOfDay.of? hour minute 0 0
  return ⟨date, time⟩

def moment (cs : List Char) (clock : Clock) : Except Fault (Option Moment) := do
  let text := Text.trim cs
  if text.isEmpty then return none
  if let some span ← Relative.resolve false text clock then return some span.start
  match Iso.stamp? text with
  | some stamp => return some (← stamp.moment)
  | none => return dayFirst? text

def span (cs : List Char) (clock : Clock) : Except Fault (Option Span) := do
  if let some span ← Relative.resolve true cs clock then return some span
  match ← moment cs clock with
  | none => return none
  | some m => return some (if cs.contains ':' then Span.ofMoment m else Span.ofDay m.date)

end Cuaderno.Written
