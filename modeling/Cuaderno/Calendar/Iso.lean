import Cuaderno.Calendar.Moment

/-!
# Standard dates and times

Reads a date, or a date and a time with any one character between them. A date is written in
calendar or week form, with or without hyphens; a time as hours, minutes and seconds, with colons
or without them, as far as wanted, with a fraction behind a point or a comma; a zone as `Z` or as
a signed offset in the form of a time. Only the digits `0` to `9` count as digits. The null
character ends a time or a zone: none is left over where it stands, whatever follows it.

The date and the time are told apart by the length of the date, which its first characters fix.
-/

namespace Cuaderno.Iso

open Cuaderno.Text (latinDigit? ofDigits)

def isDigit (c : Char) : Bool := (latinDigit? c).isSome

/-- The number that some digits write; none when another character is among them. -/
def number? (cs : List Char) : Option Nat := (cs.mapM latinDigit?).map ofDigits

/-- The length of the date in front of a text, from the place of its hyphens and of its `W`. -/
def dateLength? (cs : List Char) : Option Nat :=
  if cs.length = 7 then some 7
  else if cs[4]? = some '-' then
    if cs[5]? = some 'W' then
      if cs.length < 8 then none
      else if cs[8]? = some '-' then
        if cs.length = 9 then none
        else if cs[10]?.any isDigit then some 8 else some 10
      else some 8
    else some 10
  else if cs[4]? = some 'W' then
    -- Times come in pairs of digits, so an odd digit behind the week is its day.
    let digits := ((cs.drop 7).takeWhile isDigit).length
    if digits < 2 then some (7 + digits) else if digits % 2 = 1 then some 7 else some 8
  else some 8

def weekDate? (year week day : List Char) : Option Date := do
  Date.ofWeek? (← number? year) (← number? week) (← number? day)

def calendarDate? (year month day : List Char) : Option Date := do
  Date.of? (← number? year) (← number? month) (← number? day)

def date? : List Char → Option Date
  | [y₁, y₂, y₃, y₄, '-', 'W', w₁, w₂] => weekDate? [y₁, y₂, y₃, y₄] [w₁, w₂] ['1']
  | [y₁, y₂, y₃, y₄, '-', 'W', w₁, w₂, '-', d] => weekDate? [y₁, y₂, y₃, y₄] [w₁, w₂] [d]
  | [y₁, y₂, y₃, y₄, 'W', w₁, w₂] => weekDate? [y₁, y₂, y₃, y₄] [w₁, w₂] ['1']
  | [y₁, y₂, y₃, y₄, 'W', w₁, w₂, d] => weekDate? [y₁, y₂, y₃, y₄] [w₁, w₂] [d]
  | [y₁, y₂, y₃, y₄, '-', m₁, m₂, '-', d₁, d₂] =>
    calendarDate? [y₁, y₂, y₃, y₄] [m₁, m₂] [d₁, d₂]
  | [y₁, y₂, y₃, y₄, m₁, m₂, d₁, d₂] => calendarDate? [y₁, y₂, y₃, y₄] [m₁, m₂] [d₁, d₂]
  | _ => none

/-- Hours, minutes, seconds and microseconds as read, and whether a character was left over. -/
structure Reading where
  hour : Nat
  minute : Nat
  second : Nat
  micro : Nat
  leftOver : Bool
  deriving Repr, DecidableEq

/-- Whether nothing is left over of a text: it is empty, or the null character ends it. -/
def isOver : List Char → Bool
  | [] => true
  | c :: _ => c == '\x00'

/-- A fraction of a second in microseconds: six digits count and the digits behind them do not. -/
def fraction? (cs : List Char) : Option (Nat × Bool) := do
  let counted := cs.take 6
  let value ← number? counted
  return (value * Nat.pow 10 (6 - counted.length), !isOver ((cs.drop 6).dropWhile isDigit))

/-- Up to `left` pairs of digits and a fraction. The character behind the first pair says whether
colons stand between the pairs; a single Latin character at the end is left over, unless it ends the
text. -/
def pairs? (colons? : Option Bool) (left : Nat) (cs : List Char) :
    Option (List Nat × Nat × Bool) :=
  match left, cs with
  | 0, cs => (fraction? cs).map fun (micro, more) => ([], micro, more)
  | left + 1, a :: b :: rest => do
    let value ← number? [a, b]
    match rest with
    | [] => return ([value], 0, false)
    | [c] => if c.toNat < 128 then return ([value], 0, !isOver [c]) else none
    | c :: rest =>
      let colons := colons?.getD (c == ':')
      if colons && c == ':' then
        let (values, more) ← pairs? (some colons) left rest
        return (value :: values, more)
      else if c == '.' || c == ',' then
        let (micro, more) ← fraction? rest
        return ([value], micro, more)
      else if !colons then
        let (values, more) ← pairs? (some colons) left (c :: rest)
        return (value :: values, more)
      else none
  | _, _ => none

def clock? (cs : List Char) : Option Reading := do
  let (values, micro, more) ← pairs? none 3 cs
  return ⟨values[0]?.getD 0, values[1]?.getD 0, values[2]?.getD 0, micro, more⟩

def opensZone (c : Char) : Bool := c == '+' || c == '-' || c == 'Z'

/-- The offset of a zone in microseconds. Its seconds decide whether there is an offset at all. -/
def offset? : List Char → Option Int
  | 'Z' :: rest => if isOver rest then some 0 else none
  | sign :: cs => do
    let clock ← clock? cs
    if clock.leftOver then none
    else
      let seconds := (clock.hour * 60 + clock.minute) * 60 + clock.second
      let micros := seconds * microsPerSecond + clock.micro
      if seconds = 0 then some 0
      else if micros < microsPerDay then some (if sign = '-' then -(micros : Int) else micros)
      else none
  | [] => none

def Reading.time? (r : Reading) : Option TimeOfDay := TimeOfDay.of? r.hour r.minute r.second r.micro

/-- The time of day that a text writes, with its offset if it has a zone. -/
def time? (cs : List Char) : Option (TimeOfDay × Option Int) := do
  let clock ← clock? (cs.takeWhile (!opensZone ·))
  match cs.dropWhile (!opensZone ·) with
  | [] => if clock.leftOver then none else return (← clock.time?, none)
  | zone =>
    let offset ← offset? zone
    return (← clock.time?, some offset)

/-- The stamp that a text writes: a date alone stands for its midnight. -/
def stamp? (cs : List Char) : Option Stamp := do
  let length ← dateLength? cs
  let date ← date? (cs.take length)
  match cs.drop length with
  | [] => return ⟨⟨date, .midnight⟩, none⟩
  | _ :: rest =>
    let (time, offset) ← time? rest
    return ⟨⟨date, time⟩, offset⟩

end Cuaderno.Iso
