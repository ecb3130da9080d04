import Cuaderno.Number.Basic
import Cuaderno.Text.Blank
import Cuaderno.Text.Digit

/-!
# Reading numbers

A number is written as an optional sign, decimal digits of any script with at most one point, and
an optional exponent; or as the name of infinity or of no number. Single underscores may stand
between digits, and blanks around the whole.
-/

namespace Cuaderno.Number

open Cuaderno.Text

/-- The digits of a number before and after the point, and its exponent. -/
structure Literal where
  whole : List Nat
  fraction : List Nat
  exponent : Int
  deriving Repr, DecidableEq

def Literal.value (negative : Bool) (l : Literal) : Number :=
  ofDecimal negative (ofDigits (l.whole ++ l.fraction)) (l.exponent - l.fraction.length)

def digitsAndRest : List Char → List Nat × List Char
  | [] => ([], [])
  | c :: cs =>
    match latinDigit? c with
    | some d => let (ds, rest) := digitsAndRest cs; (d :: ds, rest)
    | none => ([], c :: cs)

/-- Splits off a sign in front; true for a minus. -/
def signAndRest : List Char → Bool × List Char
  | '+' :: cs => (false, cs)
  | '-' :: cs => (true, cs)
  | cs => (false, cs)

/-- An exponent at the end: nothing, or `e` with a signed number. -/
def exponent? : List Char → Option Int
  | [] => some 0
  | c :: cs =>
    if c = 'e' || c = 'E' then
      let (negative, rest) := signAndRest cs
      match digitsAndRest rest with
      | (d :: ds, []) =>
        let n : Int := ofDigits (d :: ds)
        some (if negative then -n else n)
      | _ => none
    else none

def literal? (cs : List Char) : Option Literal :=
  let (whole, rest) := digitsAndRest cs
  let (fraction, rest) := match rest with
    | '.' :: rest => digitsAndRest rest
    | rest => ([], rest)
  if whole.isEmpty && fraction.isEmpty then none
  else (exponent? rest).map (⟨whole, fraction, ·⟩)

def lowerLatin (c : Char) : Char :=
  if 65 ≤ c.toNat && c.toNat ≤ 90 then Char.ofNat (c.toNat + 32) else c

/-- Digits of any script as Latin digits and other blanks as spaces. A text of Latin characters
alone keeps its controls, and any other character makes it unreadable. -/
def latinForm? (cs : List Char) : Option (List Char) :=
  if cs.all (·.toNat < 128) then some cs
  else cs.mapM fun c =>
    if c.toNat < 127 then some c
    else if isBlank c then some ' '
    else (decimalValue? c).map digitChar

/-- Removes single underscores between digits; none when one stands elsewhere. -/
def withoutUnderscores? (previous : Char) : List Char → Option (List Char)
  | [] => some []
  | '_' :: cs =>
    match cs with
    | [] => none
    | c :: _ =>
      if (latinDigit? previous).isSome && (latinDigit? c).isSome then withoutUnderscores? '_' cs
      else none
  | c :: cs => (withoutUnderscores? c cs).map (c :: ·)

def isLatinBlank (c : Char) : Bool := (9 ≤ c.toNat && c.toNat ≤ 13) || c.toNat == 32

def trimLatin (cs : List Char) : List Char :=
  ((cs.dropWhile isLatinBlank).reverse.dropWhile isLatinBlank).reverse

def read? (cs : List Char) : Option Number := do
  let plain ← latinForm? cs
  let body ← withoutUnderscores? ' ' (trimLatin plain)
  let (negative, rest) := signAndRest body
  let name := String.ofList (rest.map lowerLatin)
  if name = "inf" || name = "infinity" then return infinity negative
  if name = "nan" then return nan
  return (← literal? rest).value negative

def maxDigits : Nat := 4300

/-- The integer that a text writes: a sign, and digits with single underscores between them. -/
def readInt? (cs : List Char) : Option Int := do
  let plain ← latinForm? cs
  let body ← withoutUnderscores? ' ' (trimLatin plain)
  let (negative, rest) := signAndRest body
  match digitsAndRest rest with
  | (d :: ds, []) =>
    if maxDigits ≤ ds.length then none
    let n : Int := ofDigits (d :: ds)
    return if negative then -n else n
  | _ => none

end Cuaderno.Number
