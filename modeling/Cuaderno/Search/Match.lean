import Cuaderno.Item
import Cuaderno.Number.Basic
import Cuaderno.Search.Place
import Cuaderno.Text.Markup

/-!
# Matches

A term matches an item in its title, in one of its tags, in the text of one of its properties, or
in its content. Each of these has a weight, and a title that starts with the term has a bonus. A
match shows the text around the term: the whole title, tag or property, or a window of the content.
-/

namespace Cuaderno.Search

inductive MatchField where
  | title | tag | property | content
  deriving DecidableEq, Repr

def MatchField.name : MatchField → String
  | title => "title"
  | tag => "tag"
  | property => "property"
  | content => "content"

/-- A match: the term, the text around it, and the place of the term in that text. -/
structure Match where
  field : MatchField
  term : String
  context : String
  start : Int
  stop : Int
  propertyId : Option String
  deriving DecidableEq, Repr

def Match.marked (m : Match) : String :=
  String.ofList (Text.slice m.context.toList m.start m.stop)

/-- What each match counts, and the width of the window on a content. -/
structure Weights where
  title : Number := Number.ofNat 10
  titleStart : Number := Number.ofNat 2
  tag : Number := Number.ofNat 6
  property : Number := Number.ofNat 4
  content : Number := Number.ofNat 2
  width : Int := 40
  deriving DecidableEq, Repr

structure Hit where
  weight : Number
  mark : Match
  deriving DecidableEq, Repr

def wholeMatch (field : MatchField) (term text : String) (propertyId : Option String) :
    Option Match :=
  (locate? term.toList text.toList).map fun (start, stop) =>
    ⟨field, term, text, start, stop, propertyId⟩

def titleHit? (w : Weights) (title term : String) : Option Hit :=
  (wholeMatch .title term (String.ofList (Text.trim title.toList)) none).map fun m =>
    ⟨if m.start = 0 then w.title.add w.titleStart else w.title, m⟩

/-- The match of a term in the first tag that has it. -/
def tagHit? (w : Weights) (tags : List String) (term : String) : Option Hit :=
  tags.findSome? fun tag => (wholeMatch .tag term tag none).map (⟨w.tag, ·⟩)

/-- The match of a term in the first property whose text has it. -/
def propertyHit? (w : Weights) (properties : List (String × Value)) (term : String) :
    Option Hit :=
  properties.findSome? fun (id, v) =>
    (wholeMatch .property term v.display (some id)).map (⟨w.property, ·⟩)

/-- The window on a content around a place: the offsets of its start and its end. -/
def window (length width : Int) (start stop : Int) : Int × Int :=
  let centre := (start + stop) / 2
  let first := max 0 (centre - width / 2)
  let last := min length (max (first + width) stop)
  (max 0 (min first (last - width)), last)

/-- The match of a term in the plain text of a content, with marks where text is left out. -/
def contentHit? (w : Weights) (plain : List Char) (term : String) : Option Hit :=
  (locate? term.toList plain).map fun (start, stop) =>
    let (first, last) := window plain.length w.width start stop
    let before := if 0 < first then ['…'] else []
    let after := if last < plain.length then ['…'] else []
    let context := before ++ Text.slice plain first last ++ after
    let shift := before.length - first
    ⟨w.content, ⟨.content, term, String.ofList context, start + shift, stop + shift, none⟩⟩

/-- The matches of a term in an item whose content has a plain text. -/
def hits (w : Weights) (item : Item) (plain : List Char) (term : String) : List Hit :=
  [titleHit? w item.title term, tagHit? w item.tags term, propertyHit? w item.properties term,
    contentHit? w plain term].filterMap id

/-- The first hit of the greatest weight. -/
def best (first : Hit) (rest : List Hit) : Hit :=
  rest.foldl (fun b h => if b.weight.lt h.weight then h else b) first

end Cuaderno.Search
