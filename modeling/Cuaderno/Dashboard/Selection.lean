import Cuaderno.Dashboard.Condition
import Cuaderno.Dashboard.Order
import Cuaderno.Dashboard.Period
import Cuaderno.Dashboard.Preset

/-!
# Running queries

A query keeps the items of its types, then those of its preset, then those that meet each of its
conditions, then those in its period, and sorts what is left. Each step looks only at what the
steps before it have kept.
-/

namespace Cuaderno

def keep (test : Item → Except Fault Bool) (items : List Item) : Except Fault (List Item) :=
  items.filterM test

def Query.keepsType (q : Query) (typeId : String) : Bool :=
  q.types.isEmpty || q.types.contains typeId

/-- The items of the preset of a query; all items when it has none. -/
def Query.ofPreset (q : Query) (catalog : Catalog) (items : List Item) (now : Moment)
    (days : Int) : Except Fault (List Item) :=
  match q.preset with
  | some p => (p.rule catalog now days).map items.filter
  | none => .ok items

/-- The items in the period of a query; all items when it has none. -/
def Query.inPeriod (q : Query) (catalog : Catalog) (items : List Item) (clock : Clock) :
    Except Fault (List Item) :=
  match q.period with
  | some p => keep (fun item => p.holds item catalog clock) items
  | none => .ok items

def Query.kept (q : Query) (catalog : Catalog) (items : List Item) (clock : Clock) (days : Int) :
    Except Fault (List Item) := do
  let now ← clock.now
  let clock := clock.at now
  let items := items.filter fun item => q.keepsType item.typeId
  let items ← q.ofPreset catalog items now days
  let items ← q.conditions.foldlM
    (fun items c => keep (fun item => c.holds item catalog clock) items) items
  q.inPeriod catalog items clock

/-- The items that a query selects, in the order that it asks for. -/
def Query.run (q : Query) (catalog : Catalog) (items : List Item) (clock : Clock) (days : Int) :
    Except Fault (List Item) := do
  return Dashboard.sortItems (← q.kept catalog items clock days) q.sortBy q.direction

end Cuaderno
