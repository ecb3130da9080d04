/-!
# Tables over code points

The properties of characters are tables: ranges for a class, runs for a shift that many code
points share, and pairs for everything else. All tables are in ascending order, so that a look-up
stops at the first entry behind the code point it looks for.
-/

namespace Cuaderno.Text

/-- Whether a code point lies in one of the ranges, given in ascending order, ends included. -/
def within (n : Nat) : List (Nat × Nat) → Bool
  | [] => false
  | (first, last) :: rest => if n < first then false else n ≤ last || within n rest

/-- The code points `first`, `first + step`, … up to `last`, each moved by `shift`. -/
structure Run where
  first : Nat
  last : Nat
  step : Nat
  shift : Int
  deriving Repr, DecidableEq

def Run.holds (r : Run) (n : Nat) : Bool :=
  r.first ≤ n && n ≤ r.last && (n - r.first) % r.step == 0

/-- The code point that the first run holding `n` moves it to. -/
def imageOfRuns? (n : Nat) : List Run → Option Nat
  | [] => none
  | r :: rest =>
    if n < r.first then none
    else if r.holds n then some (n + r.shift).toNat else imageOfRuns? n rest

def imageOf? {α : Type} (n : Nat) : List (Nat × α) → Option α
  | [] => none
  | (m, image) :: rest => if n < m then none else if n = m then some image else imageOf? n rest

end Cuaderno.Text
