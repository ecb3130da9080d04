import Cuaderno.Choice
import Cuaderno.Text.Fold

/-!
# Types of items

A type of items declares properties, each of one kind. Types and properties are named by people,
who type an id or a name and need not care for case and accents: a word *names* a type or a
property when their keys agree. No two properties of a type share an id, and the id of a type is
not empty.

A catalog holds the types of a snapshot, one for each id. A word resolves to a type when it names
that type and no other.
-/

namespace Cuaderno

inductive PropertyKind where
  | text | number | boolean | date | datetime | select | relation | texts
  deriving DecidableEq, Repr

instance : Choice PropertyKind where
  members := [.text, .number, .boolean, .date, .datetime, .select, .relation, .texts]
  name
    | .text => "text"
    | .number => "number"
    | .boolean => "boolean"
    | .date => "date"
    | .datetime => "datetime"
    | .select => "select"
    | .relation => "relation"
    | .texts => "stringList"
  called := "PropertyType"

def PropertyKind.isTemporal (k : PropertyKind) : Bool := k = .date || k = .datetime

structure Property where
  id : String
  name : String
  kind : PropertyKind
  /-- The allowed values of a selection. -/
  options : List String
  /-- The id of the type that a relation links to, if it is restricted to one. -/
  target : Document
  deriving DecidableEq, Repr

/-- Whether a word names a property, by its id or by its name. -/
def Property.isNamedBy (p : Property) (word : String) : Bool :=
  let k := Text.key word
  k != "" && (k == Text.key p.id || k == Text.key p.name)

structure ItemType where
  id : String
  name : String
  plural : String
  icon : String
  color : String
  properties : List Property
  id_ne : id ≠ ""
  distinct : (properties.map (·.id)).Nodup
  deriving DecidableEq, Repr

namespace ItemType

def repeated? (seen : List String) : List String → Option String
  | [] => none
  | s :: rest => if s ∈ seen then some s else repeated? (s :: seen) rest

def make (id name plural icon color : String) (properties : List Property) :
    Except Defect ItemType :=
  if hid : id = "" then .error .emptyTypeId
  else if hd : (properties.map (·.id)).Nodup then
    .ok ⟨id, name, plural, icon, color, properties, hid, hd⟩
  else
    .error (.duplicateProperty id ((repeated? [] (properties.map (·.id))).getD ""))

def property? (t : ItemType) (id : String) : Option Property := t.properties.find? (·.id == id)

def propertyNamed? (t : ItemType) (word : String) : Option Property :=
  t.properties.find? (·.isNamedBy word)

/-- Whether a word names a type, by its id, its name or its plural. -/
def isNamedBy (t : ItemType) (word : String) : Bool :=
  let k := Text.key word
  k != "" && (k == Text.key t.id || k == Text.key t.name || k == Text.key t.plural)

end ItemType

/-- The types of a snapshot, one for each id. -/
structure Catalog where
  types : List ItemType
  distinct : (types.map (·.id)).Nodup
  deriving DecidableEq, Repr

namespace Catalog

def empty : Catalog := ⟨[], List.nodup_nil⟩

/-- A catalog with one more type, unless its id is taken. -/
def add (c : Catalog) (t : ItemType) : Catalog :=
  if h : t.id ∈ c.types.map (·.id) then c
  else ⟨c.types ++ [t], by
    rw [List.map_append, List.nodup_append]
    refine ⟨c.distinct, by simp, ?_⟩
    intro a ha b hb
    simp only [List.map_cons, List.map_nil, List.mem_singleton] at hb
    subst hb
    exact fun hab => h (hab ▸ ha)⟩

/-- The catalog of some types; of types with one id the first counts. -/
def ofTypes (types : List ItemType) : Catalog := types.foldl add empty

def type? (c : Catalog) (id : String) : Option ItemType := c.types.find? (·.id == id)

/-- What stands for a type that the catalog does not hold: its id with a sheet of paper. -/
def placeholder (id : String) : ItemType where
  id := if id = "" then "unknown" else id
  name := if id = "" then "Objeto" else id
  plural := if id = "" then "Objeto" else id
  icon := "📄"
  color := "#94a3b8"
  properties := []
  id_ne := by split <;> simp_all
  distinct := List.nodup_nil

/-- The type with an id, or what stands for it. -/
def display (c : Catalog) (id : String) : ItemType := (c.type? id).getD (placeholder id)

def named (c : Catalog) (word : String) : List ItemType := c.types.filter (·.isNamedBy word)

/-- The type that a word names, if it names only one. -/
def resolve (c : Catalog) (word : String) : Option ItemType :=
  match c.named word with
  | [t] => some t
  | _ => none

def property? (c : Catalog) (typeId propertyId : String) : Option Property :=
  (c.type? typeId).bind (·.property? propertyId)

end Catalog

end Cuaderno
