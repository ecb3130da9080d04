import Cuaderno.Schema
import Cuaderno.Search.Match
import Cuaderno.Search.Request
import Cuaderno.Sorting.ByRuns

/-!
# Ranked search

An item is found when it passes all filters and every term matches it somewhere. Its score is the
sum of what the best match of each term counts. The greatest score comes first, of equal scores the
item changed last, and then the order of the items. Without terms every item that passes the
filters is found, in the order of the items.
-/

namespace Cuaderno.Search

structure Options where
  line : String := ""
  types : List String := []
  tags : List String := []
  properties : List (String × String) := []
  onlyWithContent : Bool := false
  limit : Option Int := some 50
  /-- Whether the line may hold filters. -/
  filtersInLine : Bool := true
  deriving DecidableEq, Repr

/-- What every search goes by: the weights of matches, and the types whose items count as having
content, if that is not told from the content itself. -/
structure Policy where
  weights : Weights := {}
  contentTypes : Option (List String) := none
  deriving DecidableEq, Repr

/-- A found item with its score and its matches. -/
structure Result where
  item : Item
  score : Number
  found : List Match
  deriving DecidableEq, Repr

def isOfType (catalog : Catalog) (wanted : List String) (item : Item) : Bool :=
  wanted.any fun word =>
    word == item.typeId || Text.key word == Text.key item.typeId
      || (catalog.type? item.typeId).any (·.isNamedBy word)

def hasTags (keys : List String) (item : Item) : Bool :=
  let own := item.tags.map Text.key
  keys.all own.contains

def namesProperty (catalog : Catalog) (item : Item) (word id : String) : Bool :=
  match catalog.property? item.typeId id with
  | some p => p.isNamedBy word
  | none => Text.key id == Text.key word

/-- Whether some property that a word names has a text in its value. -/
def hasProperty (catalog : Catalog) (item : Item) (word text : String) : Bool :=
  item.properties.any fun (id, v) =>
    namesProperty catalog item word id
      && Text.occursIn (Text.fold text.toList) (Text.fold v.display.toList)

def hasContent (policy : Policy) (item : Item) : Bool :=
  match policy.contentTypes with
  | some types => types.contains item.typeId
  | none => !(Text.plainText item.content.toList).isEmpty

/-- The request of some options: what the line writes, or the line as free text. -/
def Options.request (o : Options) : Request :=
  if o.filtersInLine then Request.ofLine o.line else Request.plain o.line

def passes (policy : Policy) (catalog : Catalog) (o : Options) (item : Item) : Bool :=
  let r := o.request
  let types := o.types ++ r.types
  (types.isEmpty || isOfType catalog types item)
    && hasTags ((o.tags ++ r.tags).map Text.key) item
    && (Fields.putAll o.properties r.properties).all
      (fun (word, text) => hasProperty catalog item word text)
    && (!o.onlyWithContent || hasContent policy item)

def Options.terms (o : Options) : List String :=
  (o.request.terms.map Text.key).filter (· != "")

/-- Looks for the terms from some score and some matches on. The snippet is the first match in the
content. -/
def score (w : Weights) (item : Item) (plain : List Char) :
    List String → Number → List Match → Option Match → Option Result
  | [], total, found, snippet =>
    let extra := match snippet with
      | some m => if m ∈ found then [] else [m]
      | none => []
    some ⟨item, total, found ++ extra⟩
  | term :: terms, total, found, snippet =>
    match hits w item plain term with
    | [] => none
    | hit :: rest =>
      let top := best hit rest
      let inContent := (hit :: rest).find? (·.mark.field = .content)
      score w item plain terms (total.add top.weight) (found ++ [top.mark])
        (snippet.or (inContent.map (·.mark)))

def result? (w : Weights) (terms : List String) (item : Item) : Option Result :=
  score w item (Text.plainText item.content.toList) terms Number.zero [] none

/-- Results with the item changed last first. -/
def latestFirst (results : List Result) : List Result :=
  results.mergeSort fun a b => b.item.updated ≤ a.item.updated

/-- Results with the greatest score first, and of equal scores the item changed last. With weights
that are no numbers a score can be none; then the results are sorted by runs. -/
def rank (results : List Result) : List Result :=
  let latest := latestFirst results
  if results.all (·.score ≠ .nan) then latest.mergeSort fun a b => !a.score.lt b.score
  else (Sorting.byRuns (fun a b => a.score.lt b.score) latest.reverse).reverse

def allResults (policy : Policy) (catalog : Catalog) (o : Options) (items : List Item) :
    List Result :=
  let kept := items.filter (passes policy catalog o)
  let terms := o.terms
  if terms.isEmpty then kept.map fun item => ⟨item, Number.zero, []⟩
  else rank (kept.filterMap (result? policy.weights terms))

def search (policy : Policy) (catalog : Catalog) (o : Options) (items : List Item) :
    List Result :=
  let results := allResults policy catalog o items
  match o.limit with
  | some n => results.take n.toNat
  | none => results

end Cuaderno.Search
