import Cuaderno.Dashboard.Order
import Cuaderno.Proofs.Number.Exact
import Mathlib.Data.List.Basic

/-!
# Sorting sorted items

Keys other than what is no number are ordered, in both directions (`SortKey.orders`). Sorting loses
no item (`perm_sortItems`), and sorting what is sorted changes nothing (`sortItems_sortItems`): the
items with a key are read back with their keys and in order, the items without one behind them.
-/

namespace Cuaderno.Dashboard

theorem SortKey.moment_le_moment {a b : Moment} :
    (moment a).le (moment b) = true ↔ a.instant ≤ b.instant := by
  simp only [le, lt, Bool.not_eq_true', decide_eq_false_iff_not, Moment.lt_def, Int.not_lt]

theorem SortKey.text_le_text {a b : String} : (text a).le (text b) = true ↔ a ≤ b := by
  simp only [le, lt, Bool.not_eq_true', decide_eq_false_iff_not, String.not_lt]

theorem SortKey.number_ne_nan {x : Number} (h : (number x).isOrdered = true) : x ≠ .nan := by
  intro hx
  rw [hx] at h
  cases h

theorem SortKey.le_trans {a b c : SortKey} (ha : a.isOrdered = true) (hb : b.isOrdered = true)
    (hc : c.isOrdered = true) (hab : a.le b = true) (hbc : b.le c = true) : a.le c = true := by
  -- keys of two kinds are ordered by their kinds, so that only three of one kind are left
  rcases a with a | a | a <;> rcases b with b | b | b <;> rcases c with c | c | c <;>
    first
      | rfl
      | exact absurd hab Bool.false_ne_true
      | exact absurd hbc Bool.false_ne_true
      | skip
  · rw [moment_le_moment] at hab hbc ⊢
    omega
  · rw [text_le_text] at hab hbc ⊢
    exact String.le_trans hab hbc
  · exact Number.orders_ne_nan.trans a b c (number_ne_nan ha) (number_ne_nan hb)
      (number_ne_nan hc) hab hbc

theorem SortKey.le_total {a b : SortKey} (ha : a.isOrdered = true) (hb : b.isOrdered = true) :
    (a.le b || b.le a) = true := by
  rcases a with a | a | a <;> rcases b with b | b | b <;> first | rfl | skip
  · rw [Bool.or_eq_true, moment_le_moment, moment_le_moment]
    omega
  · rw [Bool.or_eq_true, text_le_text, text_le_text]
    exact String.le_total a b
  · exact Number.orders_ne_nan.total a b (number_ne_nan ha) (number_ne_nan hb)

theorem SortKey.orders : Sorting.Orders SortKey.le fun k => k.isOrdered = true where
  trans _ _ _ := le_trans
  total _ _ := le_total

def SortKey.before (d : Direction) (a b : SortKey) : Bool :=
  match d with
  | .ascending => a.le b
  | .descending => b.le a

theorem SortKey.orders_before (d : Direction) :
    Sorting.Orders (SortKey.before d) fun k => k.isOrdered = true := by
  cases d with
  | ascending => exact orders
  | descending => exact orders.flip

section Keyed

variable {d : Direction} {keyed : List (SortKey × Item)}

theorem sortKeyed_eq (h : ∀ p ∈ keyed, p.1.isOrdered = true) :
    sortKeyed d keyed = keyed.mergeSort fun a b => SortKey.before d a.1 b.1 := by
  have hall : keyed.all (·.1.isOrdered) = true := List.all_eq_true.2 h
  unfold sortKeyed
  rw [if_pos hall]
  cases d with
  | ascending => rfl
  | descending => rfl

private theorem sortKeyed_sortKeyed (h : ∀ p ∈ keyed, p.1.isOrdered = true) :
    sortKeyed d (sortKeyed d keyed) = sortKeyed d keyed := by
  have hsorted : ∀ p ∈ sortKeyed d keyed, p.1.isOrdered = true := by
    intro p hp
    exact h p ((perm_sortKeyed d keyed).mem_iff.1 hp)
  rw [sortKeyed_eq hsorted, sortKeyed_eq h]
  apply List.mergeSort_of_pairwise
  exact ((SortKey.orders_before d).on Prod.fst).pairwise_mergeSort h

end Keyed

def keyed? (id : String) (item : Item) : Option (SortKey × Item) :=
  (sortKey? item id).map (·, item)

theorem sortItems_eq (items : List Item) (id : String) (d : Direction) :
    sortItems items id d = (sortKeyed d (items.filterMap (keyed? id))).map (·.2) ++
      items.filter fun item => (sortKey? item id).isNone := rfl

private theorem keyed?_eq_some {id : String} {item : Item} {p : SortKey × Item} :
    keyed? id item = some p ↔ sortKey? item id = some p.1 ∧ p.2 = item := by
  obtain ⟨k, other⟩ := p
  simp only [keyed?, Option.map_eq_some_iff, Prod.mk.injEq]
  constructor
  · rintro ⟨k, hk, rfl, rfl⟩
    exact ⟨hk, rfl⟩
  · rintro ⟨hk, rfl⟩
    exact ⟨k, hk, rfl, rfl⟩

theorem sortKey?_of_mem {items : List Item} {id : String} {p : SortKey × Item}
    (h : p ∈ items.filterMap (keyed? id)) : sortKey? p.2 id = some p.1 ∧ p.2 ∈ items := by
  obtain ⟨item, hmem, hp⟩ := List.mem_filterMap.1 h
  obtain ⟨hkey, rfl⟩ := keyed?_eq_some.1 hp
  exact ⟨hkey, hmem⟩

theorem map_snd_filterMap {α : Type} (key? : α → Option SortKey) (l : List α) :
    (l.filterMap fun a => (key? a).map (·, a)).map Prod.snd =
      l.filter fun a => (key? a).isSome := by
  induction l with
  | nil => rfl
  | cons a l ih =>
    cases hk : key? a with
    | none => simp [hk, ih]
    | some k => simp [hk, ih]

private theorem map_snd_keyed (items : List Item) (id : String) :
    (items.filterMap (keyed? id)).map (·.2) =
      items.filter fun item => (sortKey? item id).isSome :=
  map_snd_filterMap (sortKey? · id) items

theorem perm_sortItems (items : List Item) (id : String) (d : Direction) :
    (sortItems items id d).Perm items := by
  have hkeyed := (perm_sortKeyed d (items.filterMap (keyed? id))).map Prod.snd
  have hsplit := List.filter_append_perm (fun item => (sortKey? item id).isSome) items
  rw [sortItems_eq]
  refine List.Perm.trans (hkeyed.append_right _) ?_
  rw [map_snd_keyed]
  simpa only [Option.not_isSome] using hsplit

private theorem filterMap_keyed_map {keyed : List (SortKey × Item)} {id : String}
    (h : ∀ p ∈ keyed, sortKey? p.2 id = some p.1) :
    (keyed.map (·.2)).filterMap (keyed? id) = keyed := by
  have hsome : ∀ p ∈ keyed, (keyed? id ∘ (·.2)) p = some p := by
    intro p hp
    exact keyed?_eq_some.2 ⟨h p hp, rfl⟩
  rw [List.filterMap_map, List.filterMap_congr hsome, List.filterMap_some]

theorem sortItems_sortItems {items : List Item} {id : String} (d : Direction)
    (h : ∀ item ∈ items, sortKey? item id ≠ some (.number .nan)) :
    sortItems (sortItems items id d) id d = sortItems items id d := by
  have hmem : ∀ p ∈ sortKeyed d (items.filterMap (keyed? id)),
      sortKey? p.2 id = some p.1 ∧ p.2 ∈ items := by
    intro p hp
    exact sortKey?_of_mem ((perm_sortKeyed d _).mem_iff.1 hp)
  have hordered : ∀ p ∈ items.filterMap (keyed? id), p.1.isOrdered = true := by
    intro p hp
    obtain ⟨hkey, hitem⟩ := sortKey?_of_mem hp
    have hne : p.1 ≠ .number .nan := by
      intro hnan
      exact h p.2 hitem (by rw [hkey, hnan])
    exact decide_eq_true hne
  -- the items without a key have none, and those with one stand in the first part
  have hkeyed : (sortItems items id d).filterMap (keyed? id) =
      sortKeyed d (items.filterMap (keyed? id)) := by
    have hnone :
        (items.filter fun item => (sortKey? item id).isNone).filterMap (keyed? id) = [] := by
      rw [List.filterMap_eq_nil_iff]
      intro item hitem
      have hkey : sortKey? item id = none := by
        simpa using (List.mem_filter.1 hitem).2
      rw [keyed?, hkey]
      rfl
    rw [sortItems_eq, List.filterMap_append, hnone, List.append_nil]
    exact filterMap_keyed_map fun p hp => (hmem p hp).1
  have hmissing : (sortItems items id d).filter (fun item => (sortKey? item id).isNone) =
      items.filter fun item => (sortKey? item id).isNone := by
    have hnil : ((sortKeyed d (items.filterMap (keyed? id))).map (·.2)).filter
        (fun item => (sortKey? item id).isNone) = [] := by
      rw [List.filter_eq_nil_iff]
      intro item hitem
      obtain ⟨p, hp, rfl⟩ := List.mem_map.1 hitem
      rw [(hmem p hp).1]
      exact Bool.false_ne_true
    rw [sortItems_eq, List.filter_append, hnil, List.nil_append, List.filter_filter]
    simp only [Bool.and_self]
  rw [sortItems_eq (sortItems items id d), hkeyed, hmissing, sortKeyed_sortKeyed hordered]
  rfl

end Cuaderno.Dashboard
