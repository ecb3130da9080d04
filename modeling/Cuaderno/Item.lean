import Cuaderno.Fields
import Cuaderno.Value

/-!
# Items

An item of the notebook: a title, marked-up content, tags, values of properties, links to other
items and from them, and when it was made and last changed. Its type is named by id; the type need
not exist.
-/

namespace Cuaderno

structure Item where
  id : String
  typeId : String
  title : String
  content : String
  properties : List (String × Value)
  tags : List String
  links : List String
  backlinks : List String
  created : Moment
  updated : Moment
  embedding : Option (List Number)
  deriving DecidableEq, Repr

def Item.value? (item : Item) (propertyId : String) : Option Value :=
  item.properties.lookup propertyId

end Cuaderno
