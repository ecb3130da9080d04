/-!
# Stable sorting of a class

Some comparisons order a class of elements only: numbers are ordered by their size, but what is no
number is not. A merge sort of elements of such a class is sorted, and elements that compare equal
keep their order. The order of a sort by two keys, one after the other, follows from the second
statement alone.
-/

namespace Cuaderno.Sorting

variable {α : Type} {le : α → α → Bool} {P : α → Prop} {R : α → α → Prop} {l : List α}

/-- A comparison orders a class: of two members one is at most the other, and what is at most a
member that is at most a third is at most the third. -/
structure Orders (le : α → α → Bool) (P : α → Prop) : Prop where
  trans : ∀ a b c, P a → P b → P c → le a b = true → le b c = true → le a c = true
  total : ∀ a b, P a → P b → (le a b || le b a) = true

theorem Orders.on {β : Type} (ho : Orders le P) (key : β → α) :
    Orders (fun a b => le (key a) (key b)) fun a => P (key a) where
  trans a b c := ho.trans (key a) (key b) (key c)
  total a b := ho.total (key a) (key b)

theorem Orders.mono {Q : α → Prop} (ho : Orders le P) (h : ∀ a, Q a → P a) : Orders le Q where
  trans a b c ha hb hc := ho.trans a b c (h a ha) (h b hb) (h c hc)
  total a b ha hb := ho.total a b (h a ha) (h b hb)

theorem Orders.flip (ho : Orders le P) : Orders (fun a b => le b a) P where
  trans a b c ha hb hc hab hbc := ho.trans c b a hc hb ha hbc hab
  total a b ha hb := ho.total b a hb ha

private theorem exists_subtype_list (h : ∀ a ∈ l, P a) :
    ∃ s : List { a // P a }, s.map (·.1) = l := by
  refine ⟨l.attachWith P h, ?_⟩
  simp

/-- A merge sort of members is the one over the subtype, where the comparison is total. -/
theorem map_mergeSort_subtype (s : List { a // P a }) :
    (s.mergeSort fun a b => le a.1 b.1).map (·.1) = (s.map (·.1)).mergeSort le :=
  List.map_mergeSort fun _ _ _ _ => rfl

theorem Orders.pairwise_mergeSort (ho : Orders le P) (h : ∀ a ∈ l, P a) :
    (l.mergeSort le).Pairwise fun a b => le a b = true := by
  obtain ⟨s, rfl⟩ := exists_subtype_list h
  rw [← map_mergeSort_subtype, List.pairwise_map]
  apply List.pairwise_mergeSort
  · intro a b c hab hbc
    exact ho.trans a.1 b.1 c.1 a.2 b.2 c.2 hab hbc
  · intro a b
    exact ho.total a.1 b.1 a.2 b.2

/-- A pair in order keeps its order. -/
theorem Orders.pair_sublist_mergeSort (ho : Orders le P) (h : ∀ a ∈ l, P a) {a b : α}
    (hab : le a b = true) (hs : List.Sublist [a, b] l) :
    List.Sublist [a, b] (l.mergeSort le) := by
  obtain ⟨s, rfl⟩ := exists_subtype_list h
  obtain ⟨t, ht, hmap⟩ := List.sublist_map_iff.1 hs
  match t, hmap with
  | [x, y], hmap =>
    simp only [List.map_cons, List.map_nil, List.cons.injEq, and_true] at hmap
    obtain ⟨rfl, rfl⟩ := hmap
    rw [← map_mergeSort_subtype]
    suffices hxy : List.Sublist [x, y] (s.mergeSort fun a b => le a.1 b.1) from hxy.map Subtype.val
    apply List.pair_sublist_mergeSort
    · intro a b c hab hbc
      exact ho.trans a.1 b.1 c.1 a.2 b.2 c.2 hab hbc
    · intro a b
      exact ho.total a.1 b.1 a.2 b.2
    · exact hab
    · exact ht

/-- The members of a list with their places stand in the order of these. -/
theorem pairwise_zipIdx (l : List α) (k : Nat) : (l.zipIdx k).Pairwise fun a b => a.2 < b.2 := by
  refine List.pairwise_map.1 (?_ : ((l.zipIdx k).map Prod.snd).Pairwise (· < ·))
  rw [List.zipIdx_map_snd]
  exact List.pairwise_lt_range'

private theorem pair_sublist_or {a b : α} (ha : a ∈ l) (hb : b ∈ l) (hne : a ≠ b) :
    List.Sublist [a, b] l ∨ List.Sublist [b, a] l := by
  induction l with
  | nil => cases ha
  | cons c l ih =>
    rw [List.mem_cons] at ha hb
    rcases ha with rfl | ha
    · rcases hb with rfl | hb
      · exact absurd rfl hne
      · exact .inl ((List.singleton_sublist.2 hb).cons_cons a)
    · rcases hb with rfl | hb
      · exact .inr ((List.singleton_sublist.2 ha).cons_cons b)
      · exact (ih ha hb).imp (·.cons c) (·.cons c)

/-- No two elements of a list without repetitions come before each other. -/
theorem not_pair_sublist_swap (hn : l.Nodup) {a b : α} (hab : List.Sublist [a, b] l) :
    ¬ List.Sublist [b, a] l := by
  induction l with
  | nil => cases hab
  | cons c l ih =>
    rw [List.nodup_cons] at hn
    intro hba
    cases hab with
    | cons _ hab =>
      cases hba with
      | cons _ hba => exact ih hn.2 hab hba
      | cons_cons _ _ => exact hn.1 (hab.subset (by simp))
    | cons_cons _ hb =>
      cases hba with
      | cons _ hba => exact hn.1 (hba.subset (by simp))
      | cons_cons _ _ => exact hn.1 (hb.subset (by simp))

/-- A merge sort of distinct members is sorted, and of members that compare equal those keep the
relation that held in the order before. -/
theorem Orders.pairwise_mergeSort_stable (ho : Orders le P) (h : ∀ a ∈ l, P a) (hn : l.Nodup)
    (hR : l.Pairwise R) :
    (l.mergeSort le).Pairwise fun a b => le a b = true ∧ (le b a = true → R a b) := by
  have hperm := List.mergeSort_perm l le
  have hns : (l.mergeSort le).Nodup := hperm.nodup_iff.2 hn
  apply List.pairwise_iff_forall_sublist.2
  intro a b hab
  refine ⟨(ho.pairwise_mergeSort h).forall_sublist hab, fun hba => ?_⟩
  have hne : a ≠ b := by
    have := hns.sublist hab
    simpa using this
  have ha : a ∈ l := hperm.mem_iff.1 (hab.subset (by simp))
  have hb : b ∈ l := hperm.mem_iff.1 (hab.subset (by simp))
  rcases pair_sublist_or ha hb hne with hs | hs
  · exact hR.forall_sublist hs
  · -- then `b` would come before `a` in the sorted list too
    have := ho.pair_sublist_mergeSort h hba hs
    exact absurd this (not_pair_sublist_swap hns hab)

end Cuaderno.Sorting
