import Cuaderno.Schema
import Cuaderno.Text.Piece

/-!
# Properties by typed names

A typed word means the first property that it names. Failing that, it means the only property whose
id or name contains the word or is contained in it, comparing keys of at least three characters.
-/

namespace Cuaderno

/-- The least length of keys that may match in part. -/
def ItemType.leastPart : Nat := 3

/-- Whether a key matches the id or the name of a property in part. -/
def Property.partlyNamedBy (p : Property) (k : List Char) : Bool :=
  [Text.fold p.id.toList, Text.fold p.name.toList].any fun own =>
    ItemType.leastPart ≤ own.length && (Text.occursIn k own || Text.occursIn own k)

/-- The property that a typed word means. -/
def ItemType.resolve (t : ItemType) (word : String) : Option Property :=
  match t.propertyNamed? word with
  | some p => some p
  | none =>
    let k := Text.fold word.toList
    if k.length < leastPart then none
    else match t.properties.filter (·.partlyNamedBy k) with
      | [p] => some p
      | _ => none

end Cuaderno
