import Cuaderno.Dashboard.Stored
import Cuaderno.Panel

/-!
# Conditions on properties

A condition compares what an item has under an id with a document. What the document is read as
follows from the value: moments are compared with spans of time, numbers with numbers, flags with
flags and everything else by key. A document that cannot be read so meets no comparison, and no
item meets a condition on an unknown property.
-/

namespace Cuaderno.Dashboard

open Cuaderno.Text (key)

/-- The key of a text occurs in the key of another. -/
def keyOccurs (part whole : String) : Bool :=
  Text.occursIn (Text.fold part.toList) (Text.fold whole.toList)

/-- Whether a value equals what a document stands for; none when the document cannot be read. -/
def equality (v : Option Value) (d : Document) (clock : Clock) : Except Fault (Option Bool) :=
  if d.isNull then .ok (some v.isNone)
  else
    match v with
    | none => .ok (some false)
    | some (.moment m) => do return (← d.span? clock).map (·.contains m)
    | some (.number x) => do return (← d.number?).map x.eq
    | some (.flag b) => .ok (d.flag?.map (b == ·))
    | some (.text s) => do return some (key s == key (← d.spell))
    | some (.texts items) => do
      let wanted ← d.spell
      return some (items.any (key · == key wanted))
    | some (.links refs) => do
      let wanted ← d.spell
      return some (refs.any fun l => l.id == wanted || key l.title == key wanted)

/-- Whether a value contains the text of a document: as a part of a text or a title, or as an item
of a list. -/
def containsText (v : Option Value) (d : Document) : Except Fault Bool :=
  if d.isNull || v.isNone then .ok false
  else do
    let part ← d.spell
    match v with
    | some (.text s) => return keyOccurs part s
    | some (.texts items) => return items.any (key · == key part)
    | some (.links refs) => return refs.any fun l => l.id == part || keyOccurs part l.title
    | _ => return false

inductive Comparison where
  | greater | less | atLeast | atMost
  deriving DecidableEq, Repr

def Comparison.ofNumbers (c : Comparison) (x y : Number) : Bool :=
  match c with
  | .greater => y.lt x
  | .less => x.lt y
  | .atLeast => y.le x
  | .atMost => x.le y

/-- Compares a moment with a span: greater is behind its end, less is before its start. -/
def Comparison.ofMoment (c : Comparison) (m : Moment) (s : Span) : Bool :=
  match c with
  | .greater => s.stop < m
  | .less => m < s.start
  | .atLeast => s.start ≤ m
  | .atMost => m ≤ s.stop

/-- Compares a value by order with what a document stands for; only numbers and moments have an
order. -/
def compare (c : Comparison) (v : Option Value) (d : Document) (clock : Clock) :
    Except Fault Bool :=
  match v with
  | some (.number x) => do return (← d.number?).any (c.ofNumbers x)
  | some (.moment m) => do return (← d.span? clock).any (c.ofMoment m)
  | _ => .ok false

def meets (op : Operator) (v : Option Value) (d : Document) (clock : Clock) :
    Except Fault Bool :=
  match op with
  | .isEmpty => .ok (isMissing v)
  | .notEmpty => .ok !(isMissing v)
  | .equals => do return (← equality v d clock) == some true
  | .notEquals => do return (← equality v d clock) == some false
  | .contains => containsText v d
  | .greater => compare .greater v d clock
  | .less => compare .less v d clock
  | .atLeast => compare .atLeast v d clock
  | .atMost => compare .atMost v d clock

/-- Whether an item meets a comparison of a property with a document. An operator that is not known
is met by no item. -/
def holds (item : Item) (id : String) (op : Option Operator) (d : Document) (catalog : Catalog)
    (clock : Clock) : Except Fault Bool := do
  let (known, v) ← stored item id catalog clock
  match known, op with
  | true, some op => meets op v d.comparand clock
  | _, _ => return false

end Cuaderno.Dashboard

namespace Cuaderno

def Condition.holds (c : Condition) (item : Item) (catalog : Catalog) (clock : Clock) :
    Except Fault Bool :=
  Dashboard.holds item c.propertyId (some c.operator) c.value catalog clock

end Cuaderno
