import Cuaderno.Item
import Cuaderno.Search.Groups

/-!
# The tags of a notebook

Spellings of a tag that share a key are one tag. Tags are listed by how often they occur, most
often first, and then by key; each is shown in its most frequent spelling, and of equally frequent
ones in the one that comes first.
-/

namespace Cuaderno.Search

/-- All occurrences of tags, without outer blanks, in order; tags without a key do not count. -/
def taggings (items : List Item) : List String :=
  ((items.flatMap (·.tags)).filter (Text.key · != "")).map
    fun tag => String.ofList (Text.trim tag.toList)

/-- The text that occurs most often in a list; the first one of equally frequent texts. -/
def mostFrequent? (texts : List String) : Option String :=
  (distinct texts).foldl
    (fun best text =>
      match best with
      | some b => if texts.count b < texts.count text then some text else some b
      | none => some text)
    none

/-- Whether a key comes before another or is the same: by frequency, then by key. -/
def tagOrder (keys : List String) (a b : String) : Bool :=
  keys.count b < keys.count a || (keys.count a = keys.count b && a ≤ b)

def allTags (items : List Item) : List String :=
  let all := taggings items
  let keys := all.map Text.key
  ((distinct keys).mergeSort (tagOrder keys)).filterMap fun k =>
    mostFrequent? (all.filter (Text.key · == k))

end Cuaderno.Search
