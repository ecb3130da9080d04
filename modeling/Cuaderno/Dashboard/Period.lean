import Cuaderno.Dashboard.Stored
import Cuaderno.Panel

/-!
# Periods

A period keeps the items whose date in a field lies between two bounds, both included. A bound is
read as a span of time: the start of a period uses the start of its span, the end its end. Items
without a date there are kept, and a bound that cannot be read keeps no dated item.
-/

namespace Cuaderno

/-- Whether a moment is not before the start that a document stands for. -/
def Period.startsBy (d : Document) (m : Moment) (clock : Clock) : Except Fault Bool :=
  if d.isNull then .ok true else do return (← d.span? clock).any (·.start ≤ m)

/-- Whether a moment is not behind the end that a document stands for. -/
def Period.endsAfter (d : Document) (m : Moment) (clock : Clock) : Except Fault Bool :=
  if d.isNull then .ok true else do return (← d.span? clock).any (m ≤ ·.stop)

/-- Whether an item lies in a period, or has no date in its field. -/
def Period.holds (p : Period) (item : Item) (catalog : Catalog) (clock : Clock) :
    Except Fault Bool := do
  match (← Dashboard.stored item p.field catalog clock).2 with
  | some (.moment m) => do
    if ← Period.startsBy p.start m clock then Period.endsAfter p.stop m clock else return false
  | _ => return true

end Cuaderno
