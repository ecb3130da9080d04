import Cuaderno.QuickEntry.Naming
import Cuaderno.QuickEntry.Scan
import Cuaderno.QuickEntry.Target

/-!
# Suggestions for relations

While the value of a relation is being typed, the items whose titles contain what has been typed of
it are suggested: those whose titles start with it first, then the ones changed last. In a list only
the item behind the last comma is being typed.
-/

namespace Cuaderno.QuickEntry

/-- A suggested item, with the name and the color of its type when the type exists. -/
structure Suggestion where
  id : String
  title : String
  typeId : String
  typeName : Option String
  typeColor : Option String
  deriving DecidableEq, Repr

/-- Suggestions for what is being typed, and the place in the line where it starts. -/
structure Suggestions where
  insertAt : Nat
  items : List Suggestion
  property : String
  typed : String
  deriving DecidableEq, Repr

/-- The offset of the first character that is not blank, from an offset on. -/
def skipBlanks (cs : List Char) (start : Nat) : Nat :=
  start + ((cs.drop start).takeWhile Text.isBlank).length

/-- The offset at which the item that is being typed starts in a value. -/
def itemStart (cs : List Char) (valueStart : Nat) : Nat :=
  let start := skipBlanks cs valueStart
  let start := if cs[start]? = some '[' then start + 1 else start
  match Text.lastIndexOf? ',' (cs.drop start) with
  | some i => skipBlanks cs (start + i + 1)
  | none => skipBlanks cs start

/-- Whether an item may be the target of a relation; without a relation every item may. -/
def mayLink (p : Option Property) (item : Item) : Bool :=
  match p with
  | some p => !p.target.isPresent || p.target = .text item.typeId
  | none => true

/-- The items whose titles contain a key, those that start with it first and then by their last
change, the latest first. -/
def ranked (k : List Char) (items : List Item) : List Item :=
  let fits := items.filter fun item => Text.occursIn k (Text.fold item.title.toList)
  let byChange := fits.mergeSort fun a b => b.updated ≤ a.updated
  let starts (item : Item) : Bool := k.isPrefixOf (Text.fold item.title.toList)
  byChange.mergeSort fun a b => starts a || !starts b

def Suggestion.ofItem (catalog : Catalog) (item : Item) : Suggestion :=
  let t := catalog.type? item.typeId
  ⟨item.id, item.title, item.typeId, t.map (·.name),
    t.bind fun t => if t.color = "" then none else some t.color⟩

def defaultLimit : Int := 8

/-- The part of a line before the cursor; the whole line when there is none. -/
def beforeCursor (s : String) (cursor : Option Int) : List Char :=
  match cursor with
  | none => s.toList
  | some i => s.toList.take i.toNat

/-- The suggestions for the value before the cursor; none when no value of a relation, or of an
unknown property, is being typed there. -/
def suggest (s : String) (catalog : Catalog) (items : List Item) (limit : Int)
    (cursor : Option Int) : Option Suggestions :=
  let head := beforeCursor s cursor
  match scan (String.ofList head) with
  | .error _ => none
  | .ok p =>
    if p.reading ≠ .value then none
    else if (head.drop p.segmentStart).contains ']' then none
    else
      let name := p.pending.getD ""
      let property := (catalog.resolve p.typeWord).bind (·.resolve name)
      if property.any (·.kind ≠ .relation) then none
      else
        let start := itemStart head p.segmentStart
        let typed := withoutSign (head.drop start)
        let found := ranked (Text.fold typed) (items.filter (mayLink property))
        some ⟨start, (found.take limit.toNat).map (Suggestion.ofItem catalog), name,
          String.ofList typed⟩

end Cuaderno.QuickEntry
