import Cuaderno.Item
import Cuaderno.Schema
import Cuaderno.Text.Piece

/-!
# Targets of relations

A typed title means the first item with that title, or the only item whose title contains it. Items
of the type that the relation is restricted to come first; if none of them is meant, all items are
looked at.
-/

namespace Cuaderno.QuickEntry

def itemTitled? (candidates : List Item) (fragment : List Char) : Option Item :=
  let k := Text.fold fragment
  if k.isEmpty then none
  else
    match candidates.find? fun item => Text.fold item.title.toList == k with
    | some item => some item
    | none =>
      match candidates.filter fun item => Text.occursIn k (Text.fold item.title.toList) with
      | [item] => some item
      | _ => none

/-- A typed text without outer blanks and without one `@` in front. -/
def withoutSign (cs : List Char) : List Char :=
  match Text.trim cs with
  | '@' :: rest => rest
  | cs => cs

def compatible (p : Property) (items : List Item) : List Item :=
  items.filter fun item => p.target = .text item.typeId

/-- The item that a typed title means as the target of a relation. -/
def target? (fragment : String) (p : Property) (items : List Item) : Option Item :=
  let fragment := withoutSign fragment.toList
  if p.target.isPresent then
    match itemTitled? (compatible p items) fragment with
    | some item => some item
    | none => itemTitled? items fragment
  else itemTitled? items fragment

end Cuaderno.QuickEntry
