import Cuaderno.Proofs.Sorting.Stable
import Mathlib.Data.List.Basic
import Mathlib.Data.List.Induction

/-!
# Distinct texts in order

The distinct texts of a list stand in the order in which they first come (`pairwise_eraseDups`).
Distinct elements that are sorted stand in strict order (`Orders.pairwise_mergeSort_of_nodup`), also
where one key decides first and an order of its own only between equal keys (`Orders.behind`).
-/

namespace Cuaderno.Sorting

variable {texts : List String} {s : String}

theorem eraseDups_concat_of_mem (h : s ∈ texts) : (texts ++ [s]).eraseDups = texts.eraseDups := by
  simp [List.eraseDups_append, List.removeAll, h]

theorem eraseDups_concat_of_not_mem (h : s ∉ texts) :
    (texts ++ [s]).eraseDups = texts.eraseDups ++ [s] := by
  simp [List.eraseDups_append, List.removeAll, h, List.eraseDups_cons]

/-- The distinct texts stand in the order in which they first come. -/
theorem pairwise_eraseDups (texts : List String) :
    texts.eraseDups.Pairwise fun a b => texts.idxOf a < texts.idxOf b := by
  induction texts using List.reverseRecOn with
  | nil => exact .nil
  | append_singleton texts s ih =>
    have hold : texts.eraseDups.Pairwise fun a b =>
        (texts ++ [s]).idxOf a < (texts ++ [s]).idxOf b := by
      refine ih.imp_of_mem fun ha hb hab => ?_
      rwa [List.idxOf_append_of_mem (List.mem_eraseDups.1 ha),
        List.idxOf_append_of_mem (List.mem_eraseDups.1 hb)]
    by_cases hs : s ∈ texts
    · rwa [eraseDups_concat_of_mem hs]
    · rw [eraseDups_concat_of_not_mem hs, List.pairwise_append]
      refine ⟨hold, List.pairwise_singleton .., fun a ha b hb => ?_⟩
      have ha := List.mem_eraseDups.1 ha
      rw [List.mem_singleton.1 hb, List.idxOf_append_of_mem ha, List.idxOf_append_of_notMem hs]
      exact Nat.lt_of_lt_of_le (List.idxOf_lt_length_of_mem ha) (Nat.le_add_right ..)

theorem nodup_eraseDups (texts : List String) : texts.eraseDups.Nodup :=
  (pairwise_eraseDups texts).imp fun hab heq => by
    rw [heq] at hab
    exact Nat.lt_irrefl _ hab

/-- Of two texts that are kept, the one that first came before the other still does. -/
theorem idxOf_filter_le_iff {p : String → Bool} {a b : String} (ha : p a = true)
    (hb : p b = true) : (texts.filter p).idxOf a ≤ (texts.filter p).idxOf b ↔
      texts.idxOf a ≤ texts.idxOf b := by
  induction texts with
  | nil => exact Iff.rfl
  | cons c texts ih =>
    by_cases hc : p c = true
    · rw [List.filter_cons_of_pos hc, List.idxOf_cons, List.idxOf_cons, List.idxOf_cons,
        List.idxOf_cons]
      cases c == a <;> cases c == b <;> simp [ih]
    · have hca : (c == a) = false := by
        rw [beq_eq_false_iff_ne]
        rintro rfl
        exact hc ha
      have hcb : (c == b) = false := by
        rw [beq_eq_false_iff_ne]
        rintro rfl
        exact hc hb
      rw [List.filter_cons_of_neg hc, ih, List.idxOf_cons, List.idxOf_cons, hca, hcb]
      exact Nat.succ_le_succ_iff.symm

section Orders

variable {α β : Type} {le : α → α → Bool} {P : α → Prop} {R : α → α → Prop} {l : List α}

/-- A merge sort of distinct members stands in every relation that holds between two members in
order. -/
theorem Orders.pairwise_mergeSort_of_nodup (ho : Orders le P) (h : ∀ a ∈ l, P a) (hn : l.Nodup)
    (hR : ∀ a b, le a b = true → a ≠ b → R a b) : (l.mergeSort le).Pairwise R := by
  have hns : (l.mergeSort le).Nodup := (List.mergeSort_perm l le).nodup_iff.2 hn
  exact ((ho.pairwise_mergeSort h).and hns).imp fun {a b} hab => hR a b hab.1 hab.2

/-- A first key that is ordered strictly decides, and between equal keys what ordered before. -/
theorem Orders.behind [DecidableEq β] (ho : Orders le P) (key : α → β) (lt : β → β → Bool)
    (htrans : ∀ x y z, lt x y = true → lt y z = true → lt x z = true)
    (htri : ∀ x y, lt x y = true ∨ x = y ∨ lt y x = true) :
    Orders (fun a b => lt (key a) (key b) || (decide (key a = key b) && le a b)) P where
  trans a b c ha hb hc hab hbc := by
    simp only [Bool.or_eq_true, Bool.and_eq_true, decide_eq_true_eq] at hab hbc ⊢
    rcases hab with hab | ⟨heq, hab⟩
    · rcases hbc with hbc | ⟨heq', -⟩
      · exact .inl (htrans _ _ _ hab hbc)
      · exact .inl (heq' ▸ hab)
    · rcases hbc with hbc | ⟨heq', hbc⟩
      · exact .inl (heq ▸ hbc)
      · exact .inr ⟨heq.trans heq', ho.trans a b c ha hb hc hab hbc⟩
  total a b ha hb := by
    have htotal := ho.total a b ha hb
    simp only [Bool.or_eq_true, Bool.and_eq_true, decide_eq_true_eq] at htotal ⊢
    rcases htri (key a) (key b) with hlt | heq | hgt
    · exact .inl (.inl hlt)
    · exact htotal.imp (fun hab => .inr ⟨heq, hab⟩) fun hba => .inr ⟨heq.symm, hba⟩
    · exact .inr (.inl hgt)

end Orders

theorem orders_text : Orders (fun a b : String => decide (a ≤ b)) fun _ => True where
  trans a b c _ _ _ hab hbc := by
    simp only [decide_eq_true_eq] at hab hbc ⊢
    exact String.le_trans hab hbc
  total a b _ _ := by
    simp only [Bool.or_eq_true, decide_eq_true_eq]
    exact String.le_total a b

theorem lt_of_text_le {a b : String} (h : a ≤ b) (hne : a ≠ b) : a < b := by
  by_contra hlt
  exact hne (String.le_antisymm h (String.not_lt.1 hlt))

/-- Of two texts one comes first, unless they are the same. -/
theorem text_trichotomy (a b : String) : a < b ∨ a = b ∨ b < a := by
  by_cases heq : a = b
  · exact .inr (.inl heq)
  · rcases String.le_total a b with hle | hle
    · exact .inl (lt_of_text_le hle heq)
    · exact .inr (.inr (lt_of_text_le hle (Ne.symm heq)))

end Cuaderno.Sorting
