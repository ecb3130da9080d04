import Cuaderno.Proofs.Search.Place
import Cuaderno.Proofs.Text.Folding

/-!
# The first place of a term

A term has a place in a text exactly when it occurs in the folded form. Folding gives no, one or
several characters for each character of the text, so the character with which a term starts is told
by the lengths of what the text before it and the text through it fold to (`StartsAt`). The place of
a term starts at the first such character, and the indices that it is read from lie within the
folded form (`locate?_first`).
-/

namespace Cuaderno.Search

open Cuaderno.Text (foldChar foldChars foldIndexed)

/-- Whether a term occurs in the folded form of a text from a character on that the character `i` of
the text folds to. -/
def StartsAt (term text : List Char) (i : Nat) : Prop :=
  ∃ j, (foldChars (text.take i)).length ≤ j ∧ j < (foldChars (text.take (i + 1))).length ∧
    term <+: (foldChars text).drop j

variable {term text : List Char} {start stop : Nat}

/-- A character of the folded form comes from the character of the text that its index tells. -/
theorem bounds_of_getElem?_foldIndexed {j : Nat} {d : Char} {i : Nat}
    (h : (foldIndexed text)[j]? = some (d, i)) :
    (foldChars (text.take i)).length ≤ j ∧ j < (foldChars (text.take (i + 1))).length := by
  suffices hk : ∀ k, ((text.zipIdx k).flatMap fun p => (foldChar p.1).map (·, p.2))[j]? =
      some (d, i) → k ≤ i ∧ (foldChars (text.take (i - k))).length ≤ j ∧
        j < (foldChars (text.take (i - k + 1))).length from (hk 0 h).2
  clear h
  intro k
  induction text generalizing j k with
  | nil =>
    intro h
    cases h
  | cons c text ih =>
    rw [List.zipIdx_cons, List.flatMap_cons, List.getElem?_append, List.length_map]
    split
    · rename_i hj
      intro h
      rw [List.getElem?_map, Option.map_eq_some_iff] at h
      obtain ⟨_, -, heq⟩ := h
      cases heq
      simpa using hj
    · rename_i hj
      intro h
      obtain ⟨hi, hge, hlt⟩ := ih (k + 1) h
      dsimp only at hj hge hlt
      have hsub : i - k = i - (k + 1) + 1 := by omega
      rw [hsub, List.take_succ_cons, List.take_succ_cons, Text.foldChars_cons, Text.foldChars_cons,
        List.length_append, List.length_append]
      omega

/-- Going on with a text goes on with its folded form. -/
theorem length_foldChars_take_le (text : List Char) {i k : Nat} (h : i ≤ k) :
    (foldChars (text.take i)).length ≤ (foldChars (text.take k)).length := by
  obtain ⟨more, hmore⟩ := List.take_prefix_take_left h (l := text)
  rw [← hmore, Text.foldChars_append, List.length_append]
  omega

private theorem add_length_le_of_indexOf? (hne : term ≠ []) {i : Nat}
    (h : Text.indexOf? term text = some i) : i + term.length ≤ text.length := by
  have hle := (Text.indexOf?_eq_some h).1.length_le
  have hpos := List.length_pos_iff.2 hne
  rw [List.length_drop] at hle
  omega

/-- The place of a term is read off two characters of the folded form. -/
theorem read_of_locate? (hne : term ≠ []) (h : locate? term text = some (start, stop)) :
    ∃ i c d, Text.indexOf? term (foldChars text) = some i ∧
      (foldIndexed text)[i]? = some (c, start) ∧
      (foldIndexed text)[i + term.length - 1]? = some (d, stop - 1) ∧ 0 < stop := by
  simp only [locate?, Text.map_fst_foldIndexed, Option.map_eq_some_iff, Prod.mk.injEq] at h
  obtain ⟨i, hi, hstart, hstop⟩ := h
  have hle := add_length_le_of_indexOf? hne hi
  have hpos := List.length_pos_iff.2 hne
  have hread (j : Nat) (hj : j < (foldChars text).length) :
      ∃ c, (foldIndexed text)[j]? = some (c, (((foldIndexed text)[j]?.map (·.2)).getD 0)) := by
    rw [← Text.length_foldIndexed] at hj
    exact ⟨(foldIndexed text)[j].1, by rw [List.getElem?_eq_getElem hj]; rfl⟩
  obtain ⟨c, hc⟩ := hread i (by omega)
  obtain ⟨d, hd⟩ := hread (i + term.length - 1) (by omega)
  rw [hstart] at hc
  refine ⟨i, c, d, hi, hc, ?_, by omega⟩
  rw [← hstop, Nat.add_sub_cancel]
  exact hd

private theorem startsAt_of_locate? (hne : term ≠ []) (h : locate? term text = some (start, stop)) :
    StartsAt term text start := by
  obtain ⟨i, c, d, hi, hc, -⟩ := read_of_locate? hne h
  obtain ⟨hge, hlt⟩ := bounds_of_getElem?_foldIndexed hc
  exact ⟨i, hge, hlt, (Text.indexOf?_eq_some hi).1⟩

/-- A term starts at no character before its place. -/
theorem start_le_of_startsAt (hne : term ≠ []) (h : locate? term text = some (start, stop))
    {k : Nat} (hk : StartsAt term text k) : start ≤ k := by
  obtain ⟨i, c, d, hi, hc, -⟩ := read_of_locate? hne h
  obtain ⟨j, -, hlt, hterm⟩ := hk
  have hij : i ≤ j := by
    by_contra hji
    exact (Text.indexOf?_eq_some hi).2 j (by omega) hterm
  -- what folds from the text before the place is no longer than the folded form before the term
  by_contra hks
  have hle := length_foldChars_take_le text (show k + 1 ≤ start by omega)
  have hstart := (bounds_of_getElem?_foldIndexed hc).1
  omega

/-- The place of a term in a text: a piece of the text in whose folded form the term occurs, from
the first character on at which it starts. -/
structure IsFirstPlace (term text : List Char) (start stop : Nat) : Prop where
  start_lt_stop : start < stop
  stop_le_length : stop ≤ text.length
  holds : term <:+: foldChars ((text.take stop).drop start)
  starts : StartsAt term text start
  first : ∀ i, StartsAt term text i → start ≤ i

/-- A term that is not empty has a place exactly when it occurs in the folded form of the text, or
in the trimmed one if it has no blank at either end. It is the first place of the term, and it is
read off characters of the folded form that are there. -/
theorem locate?_first (hne : term ≠ []) :
    ((locate? term text).isSome = true ↔ term <:+: foldChars text) ∧
    (Text.trim term = term → ((locate? term text).isSome = true ↔ term <:+: Text.fold text)) ∧
    ∀ start stop, locate? term text = some (start, stop) → IsFirstPlace term text start stop ∧
      ∃ i c d, Text.indexOf? term (foldChars text) = some i ∧
        (foldIndexed text)[i]? = some (c, start) ∧
        (foldIndexed text)[i + term.length - 1]? = some (d, stop - 1) := by
  have hsome : (locate? term text).isSome = true ↔ term <:+: foldChars text := by
    rw [locate?_isSome, Text.occursIn_iff]
  refine ⟨hsome, fun htrim => ?_, fun start stop h => ⟨?_, ?_⟩⟩
  · have hterm : Text.IsTerm term := ⟨hne, htrim⟩
    rw [hsome, hterm.infix_fold]
  · obtain ⟨hlt, hle, hholds⟩ := locate?_spec hne h
    exact ⟨hlt, hle, hholds, startsAt_of_locate? hne h, fun _ => start_le_of_startsAt hne h⟩
  · obtain ⟨i, c, d, hi, hc, hd, -⟩ := read_of_locate? hne h
    exact ⟨i, c, d, hi, hc, hd⟩

/-- The term `ss` in a text with an `ß`, an accent that folds to nothing and an `İ`, which folds to
one character. -/
theorem locate?_first_strasse :
    locate? "ss".toList "İ\u0301 Straße".toList = some (7, 8) ∧
      IsFirstPlace "ss".toList "İ\u0301 Straße".toList 7 8 := by
  have hplace : locate? "ss".toList "İ\u0301 Straße".toList = some (7, 8) := by
    decide +kernel
  exact ⟨hplace, ((locate?_first (by decide)).2.2 7 8 hplace).1⟩

end Cuaderno.Search
