import Cuaderno.Item
import Cuaderno.Panel
import Cuaderno.Sorting.ByRuns
import Cuaderno.Text.Fold

/-!
# Sorting items

Items are sorted by a moment, a text or a number that they have under an id. Moments come before
texts and texts before numbers; texts are compared by key. Items that have nothing there come last
in both directions, and equal items keep their order.

What is no number comes neither before a number nor behind it. Items that are sorted by such a
value, among others, are sorted by runs, and their order depends on which of them are compared.
-/

namespace Cuaderno.Dashboard

/-- What items are sorted by. -/
inductive SortKey where
  | moment (m : Moment)
  | text (s : String)
  | number (x : Number)
  deriving DecidableEq, Repr

def SortKey.lt : SortKey → SortKey → Bool
  | .moment a, .moment b => a < b
  | .moment _, _ => true
  | .text _, .moment _ => false
  | .text a, .text b => a < b
  | .text _, .number _ => true
  | .number a, .number b => a.lt b
  | .number _, _ => false

def SortKey.le (a b : SortKey) : Bool := !b.lt a

/-- Whether a key has a place in the order: every key has one but what is no number. -/
def SortKey.isOrdered (k : SortKey) : Bool := k ≠ .number .nan

/-- The key of a value, unless it holds nothing. -/
def SortKey.ofValue? (v : Value) : Option SortKey :=
  if v.isEmpty then none
  else match v with
    | .moment m => some (.moment m)
    | .number x => some (.number x)
    | .flag b => some (.number (Number.ofNat (if b then 1 else 0)))
    | v => some (.text (Text.key v.display))

def sortKey? (item : Item) (id : String) : Option SortKey :=
  if id = "updatedAt" then some (.moment item.updated)
  else if id = "createdAt" then some (.moment item.created)
  else if id = "title" then
    let k := Text.key item.title
    if k = "" then none else some (.text k)
  else (item.value? id).bind SortKey.ofValue?

def sortKeyed (d : Direction) (keyed : List (SortKey × Item)) : List (SortKey × Item) :=
  if keyed.all (·.1.isOrdered) then
    match d with
    | .ascending => keyed.mergeSort fun a b => a.1.le b.1
    | .descending => keyed.mergeSort fun a b => b.1.le a.1
  else
    match d with
    | .ascending => Sorting.byRuns (fun a b => a.1.lt b.1) keyed
    | .descending => (Sorting.byRuns (fun a b => a.1.lt b.1) keyed.reverse).reverse

theorem perm_sortKeyed (d : Direction) (keyed : List (SortKey × Item)) :
    (sortKeyed d keyed).Perm keyed := by
  unfold sortKeyed
  split
  · cases d with
    | ascending => exact List.mergeSort_perm _ _
    | descending => exact List.mergeSort_perm _ _
  · cases d with
    | ascending => exact Sorting.perm_byRuns _ _
    | descending =>
      exact (List.reverse_perm _).trans ((Sorting.perm_byRuns _ _).trans (List.reverse_perm _))

def sortItems (items : List Item) (id : String) (d : Direction) : List Item :=
  let keyed := items.filterMap fun item => (sortKey? item id).map (·, item)
  let missing := items.filter fun item => (sortKey? item id).isNone
  (sortKeyed d keyed).map (·.2) ++ missing

end Cuaderno.Dashboard
