import Cuaderno.Dashboard.Chart
import Cuaderno.Proofs.Sorting.Distinct
import Mathlib.Algebra.BigOperators.Group.List.Lemmas
import Mathlib.Algebra.Ring.Nat

/-!
# Counted texts

A tally is made in one pass that adds one to the entry of a text, or makes a new entry at the end.
What comes out has an entry for each text that occurs, in the order in which they first come, with
the number of its occurrences (`tally_eq`).
-/

namespace Cuaderno.Dashboard

open Sorting (eraseDups_concat_of_mem eraseDups_concat_of_not_mem nodup_eraseDups)

variable {texts : List String} {s : String}

theorem sum_counts (texts : List String) :
    (texts.eraseDups.map fun s => texts.count s).sum = texts.length := by
  have hperm : texts.eraseDups.Perm texts.dedup := by
    rw [List.perm_ext_iff_of_nodup (nodup_eraseDups texts) (List.nodup_dedup texts)]
    intro a
    rw [List.mem_eraseDups, List.mem_dedup]
  rw [(hperm.map _).sum_nat, List.sum_map_count_dedup_eq_length]

private theorem tally_concat (texts : List String) (s : String) : tally (texts ++ [s]) =
    Fields.put s (((tally texts).lookup s).getD 0 + 1) (tally texts) := by
  rw [tally, List.foldl_append]
  rfl

private theorem put_map {names : List String} {f g : String → Nat} (hs : s ∈ names)
    (hn : names.Nodup)
    (hg : ∀ t ∈ names, t ≠ s → g t = f t) :
    Fields.put s (g s) (names.map fun t => (t, f t)) = names.map fun t => (t, g t) := by
  induction names with
  | nil => cases hs
  | cons n names ih =>
    rw [List.nodup_cons] at hn
    rw [List.map_cons, List.map_cons, Fields.put]
    by_cases hns : n = s
    · subst hns
      have hrest : names.map (fun t => (t, f t)) = names.map fun t => (t, g t) := by
        apply List.map_congr_left
        intro t ht
        rw [hg t (List.mem_cons_of_mem _ ht) fun heq => hn.1 (heq ▸ ht)]
      rw [if_pos rfl, hrest]
    · have hs' : s ∈ names := (List.mem_cons.1 hs).resolve_left (Ne.symm hns)
      rw [if_neg hns, hg n List.mem_cons_self hns,
        ih hs' hn.2 fun t ht => hg t (List.mem_cons_of_mem _ ht)]

/-- A tally has the number of occurrences of each text, in the order in which the texts first
come. -/
theorem tally_eq (texts : List String) :
    tally texts = texts.eraseDups.map fun s => (s, texts.count s) := by
  induction texts using List.reverseRecOn with
  | nil => rfl
  | append_singleton texts s ih =>
    have hcount : (texts ++ [s]).count s = texts.count s + 1 := by
      rw [List.count_append, List.count_singleton_self]
    have hother : ∀ t ≠ s, (texts ++ [s]).count t = texts.count t := by
      intro t ht
      have hlast : [s].count t = 0 := List.count_eq_zero_of_not_mem (by simpa using ht)
      rw [List.count_append, hlast, Nat.add_zero]
    rw [tally_concat, ih]
    by_cases hs : s ∈ texts
    · have hlookup : (texts.eraseDups.map fun t => (t, texts.count t)).lookup s =
          some (texts.count s) := List.lookup_graph _ (List.mem_eraseDups.2 hs)
      rw [hlookup, Option.getD_some, ← hcount, eraseDups_concat_of_mem hs]
      exact put_map (List.mem_eraseDups.2 hs) (nodup_eraseDups texts) fun t _ => hother t
    · have hnames : s ∉ (texts.eraseDups.map fun t => (t, texts.count t)).map Prod.fst := by
        rw [List.map_map]
        simpa using hs
      have hnone : (texts.eraseDups.map fun t => (t, texts.count t)).lookup s = none := by
        rw [List.lookup_eq_none_iff]
        intro e he
        rw [bne_iff_ne]
        exact fun heq => hnames (heq ▸ List.mem_map_of_mem he)
      have hold : texts.eraseDups.map (fun t => (t, (texts ++ [s]).count t)) =
          texts.eraseDups.map fun t => (t, texts.count t) := by
        apply List.map_congr_left
        intro t ht
        rw [hother t fun heq => hs (heq ▸ List.mem_eraseDups.1 ht)]
      rw [hnone, Fields.put_of_not_mem hnames, eraseDups_concat_of_not_mem hs, List.map_append,
        hold, List.map_singleton, hcount, List.count_eq_zero_of_not_mem hs, Option.getD_none]

end Cuaderno.Dashboard
