import Cuaderno.Number.Reader
import Cuaderno.Text.Blank
import Cuaderno.Text.Piece

/-!
# Typed numbers

People write numbers with a point or a comma as the decimal mark, and group digits by the other
mark or by spaces. Where both marks occur, the last one is the decimal mark. One mark alone groups
thousands when exactly three digits follow it and one to three digits, the first of them not zero,
come before it; any other single mark is the decimal mark. Several marks of one kind group digits.
-/

namespace Cuaderno.QuickEntry

open Cuaderno.Text (decimalValue? isDecimal)

/-- The values of the decimal digits in front of a text, and the rest. -/
def digitsInFront : List Char → List Nat × List Char
  | [] => ([], [])
  | c :: cs =>
    match decimalValue? c with
    | some d => let (ds, rest) := digitsInFront cs; (d :: ds, rest)
    | none => ([], c :: cs)

def pointedNumber? (cs : List Char) : Option Number :=
  let (negative, body) := Number.signAndRest cs
  match digitsInFront body with
  | ([], '.' :: rest) =>
    match digitsInFront rest with
    | (d :: ds, []) => some (Number.Literal.value negative ⟨[], d :: ds, 0⟩)
    | _ => none
  | ([], _) => none
  | (whole, []) => some (Number.Literal.value negative ⟨whole, [], 0⟩)
  | (whole, '.' :: rest) =>
    match digitsInFront rest with
    | (fraction, []) => some (Number.Literal.value negative ⟨whole, fraction, 0⟩)
    | _ => none
  | _ => none

/-- Whether a text is a sign, one to three digits, one mark and three digits; the first digit is
one of `1` to `9`. -/
def isGroupOfThousands (cs : List Char) : Bool :=
  let (_, body) := Number.signAndRest cs
  match body with
  | c :: _ =>
    let before := body.takeWhile isDecimal
    match body.dropWhile isDecimal with
    | mark :: after =>
      ('1' ≤ c && c ≤ '9') && before.length ≤ 3 && (mark == '.' || mark == ',')
        && after.length == 3 && after.all isDecimal
    | [] => false
  | [] => false

def without (mark : Char) (cs : List Char) : List Char := cs.filter (· != mark)

/-- The number as it is written with a point for the decimal mark and without groups. -/
def pointedForm (cs : List Char) : List Char :=
  let commas := cs.count ','
  let points := cs.count '.'
  let withPoint (cs : List Char) := cs.map fun c => if c = ',' then '.' else c
  if 0 < commas && 0 < points then
    let last (mark : Char) := (Text.lastIndexOf? mark cs).getD 0
    if last '.' < last ',' then withPoint (without '.' cs)
    else without ',' cs
  else if isGroupOfThousands cs then without '.' (without ',' cs)
  else if commas = 1 then withPoint cs
  else if 1 < commas then without ',' cs
  else if 1 < points then without '.' cs
  else cs

/-- A text without one line break at its end, where the marks behind it may have stood. -/
def withoutBreak (cs : List Char) : List Char :=
  if cs.getLast? = some '\n' then cs.dropLast else cs

def typedNumber? (s : String) : Option Number :=
  let cs := without '\u00a0' (without ' ' (Text.trim s.toList))
  if cs.isEmpty then none else pointedNumber? (withoutBreak (pointedForm cs))

end Cuaderno.QuickEntry
