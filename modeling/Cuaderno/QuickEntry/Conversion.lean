import Cuaderno.Calendar.Written
import Cuaderno.QuickEntry.Naming
import Cuaderno.QuickEntry.Target
import Cuaderno.QuickEntry.TypedList
import Cuaderno.QuickEntry.TypedNumber

/-!
# Converting typed values

Each typed value is converted by the kind of its property. A value that the kind refuses is kept as
a text, with a warning; only a relation whose title means no item is kept without one, since the
target can still be picked from the suggestions.
-/

namespace Cuaderno

/-- The flags that people write, by key. -/
def Value.flag? (key : String) : Option Bool :=
  if key ∈ ["si", "true", "1", "yes"] then some true
  else if key ∈ ["no", "false", "0"] then some false
  else none

namespace QuickEntry

inductive Converted where
  /-- A value of the kind of the property. -/
  | value (v : Value)
  /-- The text itself, perhaps with a warning. -/
  | kept (warning : Option String)
  deriving DecidableEq, Repr

def warningAbout (p : Property) (typed problem : String) : String :=
  p.name ++ ": \"" ++ typed ++ "\" no es " ++ problem

def valueOr (p : Property) (typed problem : String) (v : Option Value) : Converted :=
  match v with
  | some v => .value v
  | none => .kept (some (warningAbout p typed problem))

/-- The moment of a typed text as a value of a temporal property: dates lose their time. -/
def temporalValue (kind : PropertyKind) (m : Moment) : Value :=
  .moment (if kind = .date then .startOf m.date else m)

def option? (p : Property) (typed : String) : Option String :=
  p.options.find? (Text.key · == Text.key typed)

/-- The links to the items that a typed list of titles means; none when a title means no item. -/
def links? (p : Property) (typed : String) (items : List Item) : Option (List Link) :=
  (splitList typed).mapM fun title => (target? title p items).map fun item => ⟨item.id, item.title⟩

def convertValue (p : Property) (typed : String) (items : List Item) (clock : Clock) :
    Except Fault Converted :=
  match p.kind with
  | .date | .datetime => do
    let m ← Written.moment typed.toList clock
    return valueOr p typed "una fecha válida" (m.map (temporalValue p.kind))
  | .boolean =>
    .ok (valueOr p typed "un valor booleano válido" ((Value.flag? (Text.key typed)).map .flag))
  | .number => .ok (valueOr p typed "un número válido" ((typedNumber? typed).map .number))
  | .select =>
    if p.options.isEmpty then .ok (.value (.text typed))
    else .ok (valueOr p typed "una opción válida" ((option? p typed).map .text))
  | .relation =>
    match links? p typed items with
    | some links => .ok (.value (.links links))
    | none => .ok (.kept none)
  | .texts => .ok (.value (.texts (splitList typed)))
  | .text => .ok (.value (.text typed))

/-- Values by the ids of their properties, and warnings in the order of the typed values. -/
structure Conversion where
  properties : List (String × Value) := []
  warnings : List String := []
  deriving DecidableEq, Repr

def Conversion.add (t : ItemType) (items : List Item) (clock : Clock) (c : Conversion)
    (pair : String × String) : Except Fault Conversion :=
  match t.resolve pair.1 with
  | none =>
    let name := String.ofList (Text.trim pair.1.toList)
    .ok { c with warnings := c.warnings ++ ["Propiedad desconocida: \"" ++ name ++ "\""] }
  | some p =>
    let typed := typedValue pair.2
    if typed = "" then .ok c
    else do
      match ← convertValue p typed items clock with
      | .value v => return { c with properties := Fields.put p.id v c.properties }
      | .kept warning =>
        return ⟨Fields.put p.id (.text typed) c.properties, c.warnings ++ warning.toList⟩

/-- Converts typed pairs for an item of a type; without a type nothing is converted. -/
def convert (pairs : List (String × String)) (t : Option ItemType) (items : List Item)
    (clock : Clock) : Except Fault Conversion :=
  match t with
  | none => .ok {}
  | some t => pairs.foldlM (Conversion.add t items clock) {}

end QuickEntry

end Cuaderno
