import Cuaderno.Search.Ranking

/-!
# Results by type

Results are grouped by the ids of their items' types. The groups are in the order of the names that
the types are shown with, and each keeps the order of the results.
-/

namespace Cuaderno.Search

/-- The distinct texts of a list, in the order in which they first come. -/
def distinct (ids : List String) : List String :=
  ids.foldl (fun seen id => if id ∈ seen then seen else seen ++ [id]) []

/-- Whether a type id comes before another or is the same: by shown name, then by id. -/
def typeOrder (catalog : Catalog) (a b : String) : Bool :=
  let ka := Text.key (catalog.display a).name
  let kb := Text.key (catalog.display b).name
  ka < kb || (ka = kb && a ≤ b)

def groups (catalog : Catalog) (results : List Result) : List (String × List Result) :=
  ((distinct (results.map (·.item.typeId))).mergeSort (typeOrder catalog)).map fun id =>
    (id, results.filter (·.item.typeId == id))

end Cuaderno.Search
