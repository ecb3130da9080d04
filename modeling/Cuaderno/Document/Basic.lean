import Cuaderno.Fault
import Cuaderno.Fields
import Cuaderno.Value

/-!
# Documents

A document is data without a schema: what a snapshot is read from and written to, and what a panel
compares properties with. Beside the kinds of plain data it has dates, stamps and the values of
properties, so that a comparison can be made with any of them.
-/

namespace Cuaderno

inductive Document.Key where
  | text (s : String)
  | int (n : Int)
  | null
  deriving DecidableEq, Repr

/-- Data without a schema. -/
inductive Document where
  | null
  | bool (b : Bool)
  | int (n : Int)
  | float (x : Number)
  | text (s : String)
  | list (items : List Document)
  | map (entries : List (Document.Key × Document))
  | date (d : Date)
  | stamp (s : Stamp)
  | value (v : Value)
  deriving Repr

namespace Document

mutual

def decEq : (a b : Document) → Decidable (a = b)
  | .null, .null => isTrue rfl
  | .bool a, .bool b => decidable_of_iff (a = b) (by simp)
  | .int a, .int b => decidable_of_iff (a = b) (by simp)
  | .float a, .float b => decidable_of_iff (a = b) (by simp)
  | .text a, .text b => decidable_of_iff (a = b) (by simp)
  | .list a, .list b =>
    match decEqList a b with
    | isTrue h => isTrue (by rw [h])
    | isFalse h => isFalse (by simpa using h)
  | .map a, .map b =>
    match decEqEntries a b with
    | isTrue h => isTrue (by rw [h])
    | isFalse h => isFalse (by simpa using h)
  | .date a, .date b => decidable_of_iff (a = b) (by simp)
  | .stamp a, .stamp b => decidable_of_iff (a = b) (by simp)
  | .value a, .value b => decidable_of_iff (a = b) (by simp)
  | .null, .bool _ | .null, .int _ | .null, .float _ | .null, .text _ | .null, .list _
  | .null, .map _ | .null, .date _ | .null, .stamp _ | .null, .value _
  | .bool _, .null | .bool _, .int _ | .bool _, .float _ | .bool _, .text _ | .bool _, .list _
  | .bool _, .map _ | .bool _, .date _ | .bool _, .stamp _ | .bool _, .value _
  | .int _, .null | .int _, .bool _ | .int _, .float _ | .int _, .text _ | .int _, .list _
  | .int _, .map _ | .int _, .date _ | .int _, .stamp _ | .int _, .value _
  | .float _, .null | .float _, .bool _ | .float _, .int _ | .float _, .text _ | .float _, .list _
  | .float _, .map _ | .float _, .date _ | .float _, .stamp _ | .float _, .value _
  | .text _, .null | .text _, .bool _ | .text _, .int _ | .text _, .float _ | .text _, .list _
  | .text _, .map _ | .text _, .date _ | .text _, .stamp _ | .text _, .value _
  | .list _, .null | .list _, .bool _ | .list _, .int _ | .list _, .float _ | .list _, .text _
  | .list _, .map _ | .list _, .date _ | .list _, .stamp _ | .list _, .value _
  | .map _, .null | .map _, .bool _ | .map _, .int _ | .map _, .float _ | .map _, .text _
  | .map _, .list _ | .map _, .date _ | .map _, .stamp _ | .map _, .value _
  | .date _, .null | .date _, .bool _ | .date _, .int _ | .date _, .float _ | .date _, .text _
  | .date _, .list _ | .date _, .map _ | .date _, .stamp _ | .date _, .value _
  | .stamp _, .null | .stamp _, .bool _ | .stamp _, .int _ | .stamp _, .float _
  | .stamp _, .text _ | .stamp _, .list _ | .stamp _, .map _ | .stamp _, .date _
  | .stamp _, .value _
  | .value _, .null | .value _, .bool _ | .value _, .int _ | .value _, .float _
  | .value _, .text _ | .value _, .list _ | .value _, .map _ | .value _, .date _
  | .value _, .stamp _ => isFalse (by simp)

def decEqList : (a b : List Document) → Decidable (a = b)
  | [], [] => isTrue rfl
  | [], _ :: _ => isFalse (by simp)
  | _ :: _, [] => isFalse (by simp)
  | a :: as, b :: bs =>
    match decEq a b, decEqList as bs with
    | isTrue h₁, isTrue h₂ => isTrue (by rw [h₁, h₂])
    | isFalse h, _ => isFalse (by simp [h])
    | _, isFalse h => isFalse (by simp [h])

def decEqEntries : (a b : List (Key × Document)) → Decidable (a = b)
  | [], [] => isTrue rfl
  | [], _ :: _ => isFalse (by simp)
  | _ :: _, [] => isFalse (by simp)
  | (k, a) :: as, (l, b) :: bs =>
    match decEq a b, decEqEntries as bs with
    | isTrue h₁, isTrue h₂ =>
      if h : k = l then isTrue (by rw [h, h₁, h₂]) else isFalse (by simp [h])
    | isFalse h, _ => isFalse (by simp [h])
    | _, isFalse h => isFalse (by simp [h])

end

instance : DecidableEq Document := decEq

def ofFields (fields : List (String × Document)) : Document :=
  .map (fields.map fun (name, d) => (.text name, d))

def ofTexts (items : List String) : Document := .list (items.map .text)

def ofText? (s : Option String) : Document := (s.map .text).getD .null

/-- Whether a document counts as present: not null, false, zero or empty. -/
def isPresent : Document → Bool
  | null => false
  | bool b => b
  | int n => n != 0
  | float x => !x.isZero
  | text s => !s.isEmpty
  | list items => !items.isEmpty
  | map entries => !entries.isEmpty
  | _ => true

def isNull : Document → Bool
  | null => true
  | _ => false

def Key.document : Key → Document
  | .text s => .text s
  | .int n => .int n
  | .null => .null

def Key.name : Key → String
  | .text s => s
  | .int n => String.ofList (Text.intText n)
  | .null => "None"

/-- The entries of a mapping; a fault of the given cause for anything else. -/
def entries (otherwise : Fault) : Document → Except Fault (List (Key × Document))
  | map entries => .ok entries
  | _ => .error otherwise

def field? (d : Document) (name : String) : Except Fault (Option Document) := do
  return (← d.entries .noField).lookup (.text name)

def fieldOrNull (d : Document) (name : String) : Except Fault Document := do
  return (← d.field? name).getD .null

/-- The entry that a record must have. -/
def required (d : Document) (record name : String) : Except Fault Document := do
  match (← d.entries .wrongKind).lookup (.text name) with
  | some v => return v
  | none => throw (.defect (.missingKey record name))

/-- What a document lists: its items, its characters or the names of its entries. -/
def listed : Document → Except Fault (List Document)
  | list items => .ok items
  | text s => .ok (s.toList.map fun c => .text (String.singleton c))
  | map entries => .ok (entries.map fun (k, _) => k.document)
  | _ => .error .wrongKind

/-- What an entry of a mapping lists; nothing when it does not count as present. -/
def fieldList (d : Document) (name : String) : Except Fault (List Document) := do
  let v ← d.fieldOrNull name
  if v.isPresent then v.listed else return []

def kindName : Document → String
  | null => "NoneType"
  | bool _ => "bool"
  | int _ => "int"
  | float _ => "float"
  | text _ => "str"
  | list _ => "list"
  | map _ => "dict"
  | date _ => "date"
  | stamp _ => "datetime"
  | value v => v.kindName

end Document

end Cuaderno
