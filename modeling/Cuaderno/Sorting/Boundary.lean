/-!
# Boundaries

The boundary of a test on places is where the test stops being true. It is found by halving a range
of places, or by leaps of growing width from a place near it. For a test that is true again behind
a place where it is false, the outcome follows from the places that are looked at.
-/

namespace Cuaderno.Sorting

/-- The boundary of a test among the places from `lo` to `hi`, by halving. -/
def bisect (test : Nat → Bool) (lo hi : Nat) : Nat :=
  if lo < hi then
    let middle := lo + (hi - lo) / 2
    if test middle then bisect test (middle + 1) hi else bisect test lo middle
  else hi
termination_by hi - lo

/-- Leaps for as long as a test holds, each a little more than twice as far as the one before. Gives
the last place where it held and the next one, at most `limit`. -/
def leap (test : Nat → Bool) (limit last next : Nat) : Nat × Nat :=
  if next < limit ∧ test next then leap test limit next (2 * next + 1)
  else (last, min next limit)
termination_by limit - next

/-- The boundary of a test among the places from 0 to `length`, by leaps from the place `start`. -/
def boundaryNear (test : Nat → Bool) (start length : Nat) : Nat :=
  if test start then
    let (last, next) := leap (fun k => test (start + k)) (length - start) 0 1
    bisect test (start + last + 1) (start + next)
  else
    let (last, next) := leap (fun k => !test (start - k)) (start + 1) 0 1
    bisect test (start + 1 - next) (start - last)

end Cuaderno.Sorting
