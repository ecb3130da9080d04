import Cuaderno.Calendar.Moment
import Cuaderno.Number.Text
import Cuaderno.Text.Blank

/-!
# Values of properties

What a property of an item holds: a text, a number, a flag, a moment, a list of texts, or links to
other items. Each value has a text for people, by which it is searched and grouped.
-/

namespace Cuaderno

/-- A link to another item: its id and its title. -/
structure Link where
  id : String
  title : String
  deriving DecidableEq, Repr

inductive Value where
  | text (s : String)
  | number (x : Number)
  | flag (b : Bool)
  | moment (m : Moment)
  | texts (items : List String)
  | links (refs : List Link)
  deriving DecidableEq, Repr

namespace Value

/-- A whole number without a point, any other number exactly. -/
def numberText (x : Number) : String :=
  if x.isWhole then String.ofList (Text.intText (x.truncate?.getD 0)) else x.text

def display : Value → String
  | text s => s
  | number x => numberText x
  | flag b => if b then "sí" else "no"
  | moment m => String.ofList m.display
  | texts items => ", ".intercalate items
  | links refs => ", ".intercalate (refs.map (·.title))

/-- Whether a value holds nothing: a blank text, no texts, no links. -/
def isEmpty : Value → Bool
  | text s => Text.isAllBlank s.toList
  | texts items => items.isEmpty
  | links refs => refs.isEmpty
  | _ => false

def kindName : Value → String
  | text _ => "TextValue"
  | number _ => "NumberValue"
  | flag _ => "BoolValue"
  | moment _ => "DateValue"
  | texts _ => "StringListValue"
  | links _ => "RelationValue"

end Value

def isMissing (v : Option Value) : Bool := v.all (·.isEmpty)

@[simp] theorem isMissing_none : isMissing none = true := rfl

@[simp] theorem isMissing_some (v : Value) : isMissing (some v) = v.isEmpty := rfl

end Cuaderno
