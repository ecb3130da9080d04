import Cuaderno.Proofs.Sorting.Stable
import Cuaderno.Search.Place
import Mathlib.Data.List.Range

/-!
# Where a place lies

The place of a term in a text is a piece of the text, and the term is found in what that piece
folds to (`locate?_spec`). The indices of a folded form never descend, so the characters of the
term come from no other part of the text than the one from the first of their indices to the last.
-/

namespace Cuaderno.Search

open Cuaderno.Text (foldChar foldChars foldIndexed)

private theorem pairwise_foldIndexed (cs : List Char) :
    (foldIndexed cs).Pairwise fun p q => p.2 ≤ q.2 := by
  rw [foldIndexed, List.pairwise_flatMap]
  constructor
  · rintro ⟨c, i⟩ -
    rw [List.pairwise_map]
    exact List.pairwise_of_forall fun _ _ => Nat.le_refl i
  · refine (Sorting.pairwise_zipIdx cs 0).imp ?_
    rintro ⟨c, i⟩ ⟨d, j⟩ hij p hp q hq
    obtain ⟨_, _, rfl⟩ := List.mem_map.1 hp
    obtain ⟨_, _, rfl⟩ := List.mem_map.1 hq
    exact Nat.le_of_lt hij

/-- What comes from a piece of a text is what the piece folds to. -/
theorem filter_foldIndexed (cs : List Char) (start stop : Nat) :
    ((foldIndexed cs).filter fun p => start ≤ p.2 ∧ p.2 < stop).map Prod.fst =
      foldChars ((cs.take stop).drop start) := by
  suffices h : ∀ k, (((cs.zipIdx k).flatMap fun q => (foldChar q.1).map (·, q.2)).filter
      fun p => start ≤ p.2 ∧ p.2 < stop).map Prod.fst =
        foldChars ((cs.take (stop - k)).drop (start - k)) from h 0
  intro k
  induction cs generalizing k with
  | nil => simp
  | cons c cs ih =>
    have hhead : (((foldChar c).map (·, k)).filter fun p => start ≤ p.2 ∧ p.2 < stop).map Prod.fst =
        if start ≤ k ∧ k < stop then foldChar c else [] := by
      by_cases hk : start ≤ k ∧ k < stop
      · simp [List.filter_map, Function.comp_def, hk]
      · simp only [List.filter_map, Function.comp_def, hk, decide_false, List.filter_false,
          List.map_nil, if_false]
    rw [List.zipIdx_cons, List.flatMap_cons, List.filter_append, List.map_append, ih, hhead]
    by_cases hstop : k < stop
    · have hs : stop - k = (stop - (k + 1)) + 1 := by omega
      rw [hs, List.take_succ_cons]
      by_cases hstart : start ≤ k
      · have hk : start - k = 0 := by omega
        have hk' : start - (k + 1) = 0 := by omega
        simp [hstart, hstop, hk, hk']
      · have hk : start - k = (start - (k + 1)) + 1 := by omega
        simp [hstart, hk]
    · have hs : stop - k = 0 := by omega
      have hs' : stop - (k + 1) = 0 := by omega
      simp [hstop, hs, hs']

variable {term text : List Char} {start stop : Nat}

private theorem exists_of_locate?_eq_some (hne : term ≠ [])
    (h : locate? term text = some (start, stop)) :
    ∃ before first last middle after, foldIndexed text = before ++ middle ++ after ∧
      middle.map Prod.fst = term ∧ middle.head? = some first ∧ middle.getLast? = some last ∧
      start = first.2 ∧ stop = last.2 + 1 := by
  simp only [locate?, Text.map_fst_foldIndexed, Option.map_eq_some_iff, Prod.mk.injEq] at h
  obtain ⟨i, hi, hstart, hstop⟩ := h
  obtain ⟨rest, hrest⟩ := (Text.indexOf?_eq_some hi).1
  rw [← Text.map_fst_foldIndexed, ← List.map_drop, eq_comm, List.map_eq_append_iff] at hrest
  obtain ⟨middle, after, hsplit, hterm, -⟩ := hrest
  have hlen : middle.length = term.length := by rw [← hterm, List.length_map]
  have hmiddle : middle ≠ [] := by
    rintro rfl
    exact hne hterm.symm
  have hat (j : Nat) (hj : j < middle.length) : (foldIndexed text)[i + j]? = middle[j]? := by
    rw [← List.getElem?_drop, hsplit, List.getElem?_append_left hj]
  have hpos := List.length_pos_iff.2 hmiddle
  refine ⟨(foldIndexed text).take i, middle.head hmiddle, middle.getLast hmiddle, middle, after,
    ?_, hterm, List.head?_eq_some_head hmiddle, List.getLast?_eq_some_getLast hmiddle, ?_, ?_⟩
  · rw [List.append_assoc, ← hsplit, List.take_append_drop]
  · rw [← hstart, ← Nat.add_zero i, hat 0 hpos, ← List.head?_eq_getElem?,
      List.head?_eq_some_head hmiddle, Option.map_some, Option.getD_some]
  · have hlast : i + term.length - 1 = i + (middle.length - 1) := by omega
    rw [← hstop, hlast, hat _ (by omega), ← List.getLast?_eq_getElem?,
      List.getLast?_eq_some_getLast hmiddle, Option.map_some, Option.getD_some]

/-- The place of a term is a piece of the text that folds to something with the term in it. -/
theorem locate?_spec (hne : term ≠ []) (h : locate? term text = some (start, stop)) :
    start < stop ∧ stop ≤ text.length ∧ term <:+: foldChars ((text.take stop).drop start) := by
  obtain ⟨before, first, last, middle, after, hsplit, hterm, hfirst, hlast, rfl, rfl⟩ :=
    exists_of_locate?_eq_some hne h
  -- the indices of the found characters lie between those of the first and the last of them, so
  -- none of these characters is lost when only what comes from the place is kept
  have hsorted : middle.Pairwise fun p q => p.2 ≤ q.2 := by
    refine (pairwise_foldIndexed text).sublist ?_
    rw [hsplit]
    exact (List.sublist_append_right ..).trans (List.sublist_append_left ..)
  have hge : ∀ p ∈ middle, first.2 ≤ p.2 := by
    obtain ⟨rest, rfl⟩ := List.head?_eq_some_iff.1 hfirst
    intro p hp
    rcases List.mem_cons.1 hp with rfl | hp
    · exact Nat.le_refl _
    · exact (List.pairwise_cons.1 hsorted).1 p hp
  have hle : ∀ p ∈ middle, p.2 ≤ last.2 := by
    obtain ⟨rest, rfl⟩ := List.getLast?_eq_some_iff.1 hlast
    intro p hp
    rcases List.mem_append.1 hp with hp | hp
    · exact (List.pairwise_append.1 hsorted).2.2 p hp last (List.mem_singleton_self _)
    · rw [List.mem_singleton.1 hp]
  have hmem : last ∈ middle := List.mem_of_getLast? hlast
  refine ⟨Nat.lt_succ_of_le (hge last hmem), ?_, ?_⟩
  · apply @Text.lt_length_of_mem_foldIndexed text last.1
    rw [hsplit]
    exact List.mem_append_left _ (List.mem_append_right _ hmem)
  · have hkept : middle.filter (fun p => first.2 ≤ p.2 ∧ p.2 < last.2 + 1) = middle := by
      rw [List.filter_eq_self]
      intro p hp
      exact decide_eq_true ⟨hge p hp, Nat.lt_succ_of_le (hle p hp)⟩
    rw [← filter_foldIndexed, hsplit, List.filter_append, List.filter_append, hkept,
      List.map_append, List.map_append, hterm]
    exact List.infix_append ..

end Cuaderno.Search
