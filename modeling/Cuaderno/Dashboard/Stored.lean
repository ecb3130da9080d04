import Cuaderno.Calendar.Written
import Cuaderno.Item
import Cuaderno.Number.Reader
import Cuaderno.QuickEntry.Conversion
import Cuaderno.Schema

/-!
# What conditions look at

A condition looks at a property of an item, or at its title, its type or one of its two moments. A
text that was stored before its property took another kind is read as a value of that kind when it
writes one.

A document is read as a number, a flag or a span of time when it can be read as one.
-/

namespace Cuaderno

/-- The number that a typed text writes with a point or a comma. -/
def Number.readTyped? (s : String) : Option Number :=
  Number.read? ((Text.trim s.toList).map fun c => if c = ',' then '.' else c)

namespace Document

/-- The number that a document stands for, if it does; flags are no numbers. -/
def number? : Document → Except Fault (Option Number)
  | .int n =>
    match Number.ofInt? n with
    | some x => .ok (some x)
    | none => .error .outOfRange
  | .float x => .ok (some x)
  | .text s => .ok (Number.readTyped? s)
  | _ => .ok none

def flag? : Document → Option Bool
  | .bool b => some b
  | .int n => some (n != 0)
  | .float x => some !x.isZero
  | .text s => Value.flag? (Text.key s)
  | _ => none

def span? (d : Document) (clock : Clock) : Except Fault (Option Span) :=
  match d with
  | .stamp s => do return some (Span.ofMoment (← s.moment))
  | .date d => .ok (some (Span.ofDay d))
  | .text s => Written.span s.toList clock
  | _ => .ok none

/-- What a condition compares with: a value of a property is compared by its content. -/
def comparand : Document → Document
  | .value (.text s) => .text s
  | .value (.number x) => .float x
  | .value (.flag b) => .bool b
  | .value (.moment m) => .stamp ⟨m, none⟩
  | .value (.texts items) => .text (", ".intercalate items)
  | .value (.links refs) => .text (", ".intercalate (refs.map (·.title)))
  | d => d

end Document

namespace Dashboard

/-- A stored value as a value of the kind of its property. Only the wall clock is at hand where
values are stored. -/
def aligned (v : Value) (p : Property) (clock : Clock) : Except Fault Value :=
  match v with
  | .text s =>
    match p.kind with
    | .number => .ok ((Number.readTyped? s).elim v .number)
    | .date | .datetime => do
      return (← Written.moment s.toList clock.wallOnly).elim v .moment
    | .boolean => .ok ((Value.flag? (Text.key s)).elim v .flag)
    | _ => .ok v
  | v => .ok v

/-- What an item has under an id: whether the id is known, and the value. -/
def stored (item : Item) (id : String) (catalog : Catalog) (clock : Clock) :
    Except Fault (Bool × Option Value) :=
  if id = "title" then .ok (true, some (.text item.title))
  else if id = "type" then .ok (true, some (.text item.typeId))
  else if id = "createdAt" then .ok (true, some (.moment item.created))
  else if id = "updatedAt" then .ok (true, some (.moment item.updated))
  else
    match item.value? id, catalog.property? item.typeId id with
    | some v, some p => do return (true, some (← aligned v p clock))
    | v, p => .ok (v.isSome || p.isSome, v)

end Dashboard

end Cuaderno
