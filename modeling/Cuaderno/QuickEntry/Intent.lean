import Cuaderno.QuickEntry.Conversion
import Cuaderno.QuickEntry.Scan
import Cuaderno.Text.Shorten

/-!
# What a quick entry asks for

A quick entry asks for a new item of a type, or for a change of the first item of that type with
the same title. A type word that names no type, or more than one, gives a warning and no typed
values.
-/

namespace Cuaderno.QuickEntry

structure Intent where
  type : Option ItemType
  name : String
  properties : List (String × Value)
  /-- The pairs as they were typed. -/
  typed : List (String × String)
  /-- The id of the item that is changed; none when a new one is made. -/
  existing : Option String
  warnings : List String
  deriving DecidableEq, Repr

/-- The first item of a type with a title. -/
def existing? (name : String) (t : Option ItemType) (items : List Item) : Option Item :=
  t.bind fun t =>
    items.find? fun item => item.typeId == t.id && Text.key item.title == Text.key name

/-- What a line asks for; none when it is no quick entry. -/
def intent (s : String) (catalog : Catalog) (items : List Item) (clock : Clock) :
    Except Fault (Option Intent) :=
  match entry? s with
  | none => .ok none
  | some e => do
    let t := catalog.resolve e.typeWord
    let unknown := if t.isNone then ["Tipo desconocido: \"" ++ e.typeWord ++ "\""] else []
    let existing := existing? e.name t items
    let converted ← convert e.assignments t items clock
    return some
      ⟨t, e.name, converted.properties, e.assignments, existing.map (·.id),
        unknown ++ converted.warnings⟩

def previewWidth : Int := 30

/-- Typed pairs on one line, with the names of the properties that they mean. -/
def preview (pairs : List (String × String)) (t : Option ItemType) : String :=
  ", ".intercalate <| pairs.map fun (name, typed) =>
    let shown := match t.bind (·.resolve name) with
      | some p => p.name
      | none => String.ofList (Text.trim name.toList)
    let value := Text.shorten (typedValue typed).toList previewWidth ['…']
    shown ++ ": " ++ String.ofList value

end Cuaderno.QuickEntry
