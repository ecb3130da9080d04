import Cuaderno.Number.Basic
import Cuaderno.Text.Digit

/-!
# Numbers in base ten

A number is written with the fewest digits that read back to it, and among those with the ones
nearest to it; or, for tables, rounded to a fixed count of digits. Which digits are written and how
they are laid out are two things: the first is a function of the number alone, and the second
follows a `Layout`.
-/

namespace Cuaderno.Number

open Cuaderno.Text (digitsOf digitChar natText)

/-- Decimal digits: `digits * 10 ^ exponent`. -/
structure Decimal where
  digits : Nat
  exponent : Int
  deriving Repr, DecidableEq

/-- The quotient `num / den` in the grid of `10 ^ k`: its numerator and denominator there. -/
def onGrid (num den : Nat) (k : Int) : Nat × Nat :=
  if 0 ≤ k then (num, den * Nat.pow 10 k.toNat) else (num * Nat.pow 10 k.natAbs, den)

/-- The exponent of the first decimal digit of a positive quotient. -/
def decimalExponent (num den : Nat) : Int :=
  let guess := ((Nat.log2 num : Int) - Nat.log2 den) * 30103 / 100000 - 1
  let reaches (e : Int) : Bool := let (n, d) := onGrid num den e; d ≤ n
  if reaches (guess + 3) then guess + 3
  else if reaches (guess + 2) then guess + 2
  else if reaches (guess + 1) then guess + 1
  else guess

/-- The digits on the grid of `10 ^ k` that read back to the magnitude of a rank, if any.

The magnitudes that read back lie between the midpoints to the neighbours; a midpoint belongs to
the even rank. Only the two grid points around the magnitude can be the nearest ones. -/
def readingBack? (rank : Nat) (k : Int) : Option Decimal :=
  let low := units (rank - 1) + units rank
  let high := units rank + units (rank + 1)
  let (num, den) := onGrid (2 * units rank) (2 * unit) k
  let factor := if 0 ≤ k then 1 else Nat.pow 10 k.natAbs
  let reads (c : Nat) : Bool :=
    if rank % 2 = 0 then low * factor ≤ c * den && c * den ≤ high * factor
    else low * factor < c * den && c * den < high * factor
  let below := num / den
  let nearest := roundDiv num den
  let other := if nearest = below then below + 1 else below
  if reads nearest then some ⟨nearest, k⟩ else if reads other then some ⟨other, k⟩ else none

/-- The fewest digits that read back to the magnitude of a rank. -/
def shortest (rank : Nat) : Decimal :=
  let first := decimalExponent (units rank) unit
  ((List.range 17).findSome? fun (n : Nat) => readingBack? rank (first - n)).getD ⟨0, 0⟩

def rounded (rank count : Nat) : Decimal :=
  let k := decimalExponent (units rank) unit + 1 - count
  let (num, den) := onGrid (units rank) unit k
  ⟨roundDiv num den, k⟩

def Decimal.stripped (d : Decimal) : List Nat × Int :=
  let ds := digitsOf d.digits
  let kept := (ds.reverse.dropWhile (· == 0)).reverse
  (kept, d.exponent + (ds.length - kept.length : Nat))

structure Layout where
  /-- Positional from the exponent of the first digit on, … -/
  firstPositional : Int
  /-- … up to this one. -/
  lastPositional : Int
  /-- Whether a whole number keeps a point and a zero. -/
  pointed : Bool

/-- Exact numbers: positional from `0.0001` up to `10^16`, whole numbers with a point. -/
def Layout.exact : Layout := ⟨-4, 15, true⟩

/-- Rounded numbers of tables: positional from `0.0001` up to `10^6`, whole numbers without one. -/
def Layout.table : Layout := ⟨-4, 5, false⟩

/-- An exponent of base ten, with its sign and at least two digits. -/
def exponentText (e : Int) : List Char :=
  'e' :: (if e < 0 then '-' else '+') :: Text.paddedText 2 e.natAbs

def Layout.write (layout : Layout) (d : Decimal) : List Char :=
  let (ds, k) := d.stripped
  let text := ds.map digitChar
  let first : Int := k + text.length - 1
  if layout.firstPositional ≤ first && first ≤ layout.lastPositional then
    if first < 0 then '0' :: '.' :: List.replicate (first.natAbs - 1) '0' ++ text
    else if 0 ≤ k then
      text ++ List.replicate k.toNat '0' ++ (if layout.pointed then ['.', '0'] else [])
    else text.take (first.toNat + 1) ++ '.' :: text.drop (first.toNat + 1)
  else
    match text with
    | [] => []
    | c :: [] => c :: exponentText first
    | c :: rest => c :: '.' :: rest ++ exponentText first

/-- A number written with the digits that `choose` finds for its rank. -/
def writeWith (layout : Layout) (choose : Nat → Decimal) : Number → List Char
  | nan => ['n', 'a', 'n']
  | real negative rank _ =>
    let sign := if negative then ['-'] else []
    if infinityRank ≤ rank then sign ++ ['i', 'n', 'f']
    else if rank = 0 then sign ++ '0' :: (if layout.pointed then ['.', '0'] else [])
    else sign ++ layout.write (choose rank)

/-- The exact text of a number: the fewest digits that read back to it. -/
def text (x : Number) : String := String.ofList (writeWith .exact shortest x)

/-- The text of a number in a table: six digits. -/
def tableText (x : Number) : String := String.ofList (writeWith .table (rounded · 6) x)

end Cuaderno.Number
