import Cuaderno.Calendar.Moment
import Cuaderno.Proofs.Sorting.Stable

/-!
# Sorting by change and by another key

Answers are sorted twice: by their last change, the latest first, and then by a key that counts
more. Both sorts are stable, so that together they give one order: the key decides, between equal
keys the later change, and between equal changes the order before (`pairwise_latest_mergeSort`).
-/

namespace Cuaderno.Sorting

variable {α : Type} {l : List α} {R : α → α → Prop}

theorem orders_latest : Orders (fun a b : Moment => decide (b ≤ a)) fun _ => True where
  trans a b c _ _ _ hab hbc := by
    simp only [decide_eq_true_eq, Moment.le_def] at hab hbc ⊢
    omega
  total a b _ _ := by
    simp only [Bool.or_eq_true, decide_eq_true_eq, Moment.le_def]
    omega

/-- Two stable sorts, by change and then by a key, give one order. -/
theorem pairwise_latest_mergeSort {le : α → α → Bool} {P : α → Prop} (ho : Orders le P)
    (h : ∀ a ∈ l, P a) (hn : l.Nodup) (hR : l.Pairwise R) (updated : α → Moment) :
    ((l.mergeSort fun a b => decide (updated b ≤ updated a)).mergeSort le).Pairwise fun a b =>
      le a b = true ∧ (le b a = true → updated b < updated a ∨
        (updated a).instant = (updated b).instant ∧ R a b) := by
  have hperm := List.mergeSort_perm l fun a b => decide (updated b ≤ updated a)
  have hlatest := (orders_latest.on updated).pairwise_mergeSort_stable (fun _ _ => trivial) hn hR
  have hsorted := ho.pairwise_mergeSort_stable (fun a ha => h a (hperm.mem_iff.1 ha))
    (hperm.nodup_iff.2 hn) hlatest
  refine hsorted.imp ?_
  intro a b ⟨hle, hties⟩
  refine ⟨hle, fun hback => ?_⟩
  obtain ⟨hupdated, hplace⟩ := hties hback
  simp only [decide_eq_true_eq, Moment.le_def] at hupdated hplace
  rw [Moment.lt_def]
  by_cases hlt : (updated b).instant < (updated a).instant
  · exact .inl hlt
  · exact .inr ⟨by omega, hplace (by omega)⟩

end Cuaderno.Sorting
