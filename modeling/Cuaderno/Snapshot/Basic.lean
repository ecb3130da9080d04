import Cuaderno.Item
import Cuaderno.Panel
import Cuaderno.Schema

/-!
# Snapshots

A snapshot is everything that one evaluation looks at: the types, the items and the panels of a
notebook at one moment.
-/

namespace Cuaderno

/-- The types, items and panels of a notebook. -/
structure Snapshot where
  types : List ItemType := []
  items : List Item := []
  panels : List Panel := []
  deriving DecidableEq, Repr

def Snapshot.catalog (s : Snapshot) : Catalog := Catalog.ofTypes s.types

end Cuaderno
