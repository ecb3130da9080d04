/-!
# Numbers of double precision

A number is a binary floating-point number of double precision. The magnitudes are numbered in
increasing order: rank 0 is zero, rank 1 the least positive magnitude `2^-1074`, and so on up to
infinity. Each finite magnitude is a whole number of *units* of `2^-1074`, so that every operation
is one operation on whole numbers and one rounding, to the nearest magnitude and on ties to the
even rank.

Ranks order magnitudes, hence the order of numbers is the order of whole numbers (`lt_trichotomy`).
-/

namespace Cuaderno

def Number.infinityRank : Nat := 2047 * Nat.pow 2 52

/-- A number of double precision: a signed magnitude, or no number at all. -/
inductive Number where
  | nan
  | real (negative : Bool) (rank : Nat) (bounded : rank ≤ Number.infinityRank)
  deriving DecidableEq, Repr

namespace Number

/-- The units of the least positive magnitude in one. -/
def unit : Nat := Nat.pow 2 1074

/-- The leading digits of a finite magnitude: 53 of them in base two, or fewer near zero. -/
def mantissa (rank : Nat) : Nat :=
  if rank < Nat.pow 2 52 then rank else Nat.pow 2 52 + rank % Nat.pow 2 52

/-- How many digits of base two follow the mantissa. -/
def scale (rank : Nat) : Nat := rank / Nat.pow 2 52 - 1

def units (rank : Nat) : Nat := mantissa rank * Nat.pow 2 (scale rank)

/-- The nearest whole number to a quotient; a half goes to the even neighbour. -/
def roundDiv (num den : Nat) : Nat :=
  let q := num / den
  let r := num % den
  if 2 * r < den then q else if den < 2 * r then q + 1 else q + q % 2

/-- The rank nearest to `num / den` units; from a certain size on, one of infinity or beyond. -/
def nearestRank (num den : Nat) : Nat :=
  let s := Nat.log2 (num / den) - 52
  s * Nat.pow 2 52 + roundDiv num (den * Nat.pow 2 s)

/-- The signed magnitude of a rank, infinity at most. -/
def ofRank (negative : Bool) (rank : Nat) : Number :=
  .real negative (min rank infinityRank) (Nat.min_le_right ..)

def ofUnits (negative : Bool) (num den : Nat) : Number := ofRank negative (nearestRank num den)

def zero : Number := ofRank false 0

def infinity (negative : Bool) : Number := ofRank negative infinityRank

def isFinite : Number → Bool
  | nan => false
  | real _ rank _ => rank < infinityRank

/-- The finite number nearest to an integer; none when the nearest magnitude is infinity. -/
def ofInt? (n : Int) : Option Number :=
  let x := ofUnits (n < 0) (n.natAbs * unit) 1
  if x.isFinite then some x else none

def ofNat (n : Nat) : Number := ofUnits false (n * unit) 1

def ofDecimal (negative : Bool) (digits : Nat) (exponent : Int) : Number :=
  if digits = 0 then ofRank negative 0
  else
    let width := Nat.log2 digits
    if 320 < exponent then infinity negative
    else if (width : Int) + 1 + 3 * exponent < -1080 then ofRank negative 0
    else if 0 ≤ exponent then ofUnits negative (digits * Nat.pow 10 exponent.toNat * unit) 1
    else ofUnits negative (digits * unit) (Nat.pow 10 exponent.natAbs)

/-- The position of a number in the order of numbers: its rank with its sign. -/
def position? : Number → Option Int
  | nan => none
  | real negative rank _ => some (if negative then -rank else rank)

/-- Numeric equality: both zeros are equal, and no number is no number. -/
def eq (x y : Number) : Bool :=
  match x.position?, y.position? with
  | some a, some b => a == b
  | _, _ => false

theorem eq_symm (x y : Number) : x.eq y = y.eq x := by
  unfold eq
  cases x.position? with
  | none => cases y.position? <;> rfl
  | some a =>
    cases y.position? with
    | none => rfl
    | some b => exact BEq.comm

def lt (x y : Number) : Bool :=
  match x.position?, y.position? with
  | some a, some b => a < b
  | _, _ => false

def le (x y : Number) : Bool := x.lt y || x.eq y

/-- Of two numbers exactly one is less, or they are equal. -/
theorem lt_trichotomy {x y : Number} (hx : x ≠ nan) (hy : y ≠ nan) :
    (x.lt y ∧ ¬ x.eq y ∧ ¬ y.lt x) ∨ (¬ x.lt y ∧ x.eq y ∧ ¬ y.lt x)
      ∨ (¬ x.lt y ∧ ¬ x.eq y ∧ y.lt x) := by
  cases x with
  | nan => exact absurd rfl hx
  | real n r hr =>
    cases y with
    | nan => exact absurd rfl hy
    | real m s hs =>
      simp only [lt, eq, position?, decide_eq_true_eq, beq_iff_eq]
      omega

def signedUnits? : Number → Option Int
  | nan => none
  | real negative rank _ =>
    if rank < infinityRank then some (if negative then -units rank else units rank) else none

def isNegative : Number → Bool
  | nan => false
  | real negative _ _ => negative

def isZero : Number → Bool
  | nan => false
  | real _ rank _ => rank == 0

def add (x y : Number) : Number :=
  match x.signedUnits?, y.signedUnits? with
  | some a, some b =>
    let sum := a + b
    if sum = 0 then ofRank (x.isNegative && y.isNegative) 0
    else ofUnits (sum < 0) sum.natAbs 1
  | some _, none => y
  | none, some _ => x
  | none, none => if x = y then x else nan

/-- The quotient by a positive count, rounded to the nearest number. -/
def divCount (x : Number) (count : Nat) : Number :=
  match x with
  | nan => nan
  | real negative rank _ =>
    if rank < infinityRank then ofUnits negative (units rank) count else infinity negative

/-- The integer part, toward zero; none unless the number is finite. -/
def truncate? (x : Number) : Option Int := x.signedUnits?.map (·.tdiv unit)

def isWhole (x : Number) : Bool :=
  match x.signedUnits? with
  | some u => u.tmod unit == 0
  | none => false

end Number

end Cuaderno
