import Cuaderno.Proofs.Search.Line
import Cuaderno.Proofs.Text.Words

/-!
# The terms of the free text

The free tokens of a line are joined to one text, and its words are the terms. So each token gives
its own words, in the order of the tokens. A token is one term as long as no blank is in it; what
was kept together by quotes falls apart again (`terms_ofLine`).
-/

namespace Cuaderno.Search

open Text (isBlank words)

def freeTokens (line : String) : List (List Char) :=
  (tokens line.toList).filter (Kind.free.Fits ·)

/-- What the free tokens say without the quotes around them, if that is not empty. -/
def freeTexts (line : String) : List String := ((freeTokens line).map bare).filter (· ≠ "")

private theorem toList_bare (t : List Char) : (bare t).toList = unquoted t := String.toList_ofList

private theorem terms_eq_flatMap (line : String) : (Request.ofLine line).terms =
    (freeTokens line).flatMap fun t => (words (unquoted t)).map String.ofList := by
  have htext : (Request.ofLine line).text.toList =
      [' '].intercalate ((freeTokens line).map unquoted) := by
    rw [(routed_ofLine line).text, String.toList_intercalate, List.map_map]
    exact congrArg _ (List.map_congr_left fun t _ => toList_bare t)
  rw [Request.terms, htext, Text.words_intercalate (by decide), List.flatMap_map, List.map_flatMap]

private theorem freeTexts_eq (line : String) : freeTexts line =
    (((freeTokens line).map unquoted).filter (· ≠ [])).map String.ofList := by
  have hbare : (freeTokens line).map bare =
      ((freeTokens line).map unquoted).map String.ofList := by
    rw [List.map_map]
    rfl
  have hempty (text : List Char) : String.ofList text ≠ "" ↔ text ≠ [] := by
    rw [ne_eq, ← String.toList_inj, String.toList_ofList, String.toList_empty]
  rw [freeTexts, hbare, List.filter_map]
  refine congrArg _ (List.filter_congr fun text _ => ?_)
  rw [Function.comp_apply, decide_eq_decide]
  exact hempty text

private theorem unquoted_cases (t : List Char) :
    unquoted t = t ∨ t = '"' :: unquoted t ++ ['"'] := by
  unfold unquoted
  split
  · rename_i h
    simp only [Bool.and_eq_true, decide_eq_true_eq] at h
    obtain ⟨⟨hlength, hhead⟩, hlast⟩ := h
    match t with
    | [] => cases hhead
    | [_] => exact absurd hlength (by simp)
    | first :: c :: rest =>
      cases hhead
      refine .inr ?_
      rw [List.getLast?_cons_cons] at hlast
      have hend := List.dropLast_append_getLast? '"' hlast
      rw [List.drop_one, List.tail_cons, List.cons_append, hend]
  · exact .inl rfl

/-- Quotes are no blanks, so a token has a blank with them or without. -/
theorem not_isBlank_unquoted_iff (t : List Char) :
    (∀ c ∈ unquoted t, isBlank c = false) ↔ ∀ c ∈ t, isBlank c = false := by
  rcases unquoted_cases t with h | h
  · rw [h]
  · have hquote : isBlank '"' = false := by decide
    constructor
    · intro hinner c hc
      rw [h, List.cons_append, List.mem_cons, List.mem_append, List.mem_singleton] at hc
      rcases hc with rfl | hc | rfl
      · exact hquote
      · exact hinner c hc
      · exact hquote
    · intro hall c hc
      rw [h] at hall
      exact hall c (List.mem_append_left _ (List.mem_cons_of_mem _ hc))

/-- The words of some texts are these texts themselves, but for empty ones, exactly if no blank is
in them. -/
theorem flatMap_words_eq_filter_iff (texts : List (List Char)) :
    texts.flatMap words = texts.filter (· ≠ []) ↔
      ∀ text ∈ texts, ∀ c ∈ text, isBlank c = false := by
  constructor
  · intro h text htext c hc
    have hmem : text ∈ texts.flatMap words := by
      rw [h, List.mem_filter]
      exact ⟨htext, decide_eq_true (List.ne_nil_of_mem hc)⟩
    obtain ⟨other, -, hword⟩ := List.mem_flatMap.1 hmem
    exact (Text.isWord_of_mem_words hword).not_isBlank c hc
  · intro h
    induction texts with
    | nil => rfl
    | cons text texts ih =>
      rw [List.forall_mem_cons] at h
      rw [List.flatMap_cons, ih h.2]
      by_cases htext : text = []
      · rw [htext, Text.words_nil, List.filter_cons_of_neg (by simp), List.nil_append]
      · rw [Text.words_of_isWord ⟨htext, h.1⟩, List.filter_cons_of_pos (by simpa using htext),
          List.singleton_append]

/-- The terms of a line are the words of its free tokens, token by token. They are the free tokens
without their quotes, the empty ones left out, exactly if no quotes keep a blank in a free token. -/
theorem terms_ofLine (line : String) :
    ((Request.ofLine line).terms =
      (freeTokens line).flatMap fun t => (words (unquoted t)).map String.ofList) ∧
    ((Request.ofLine line).terms = freeTexts line ↔
      ∀ t ∈ freeTokens line, ∀ c ∈ t, isBlank c = false) := by
  refine ⟨terms_eq_flatMap line, ?_⟩
  have hterms : (Request.ofLine line).terms =
      (((freeTokens line).map unquoted).flatMap words).map String.ofList := by
    rw [terms_eq_flatMap, List.flatMap_map, List.map_flatMap]
  rw [hterms, freeTexts_eq, List.map_inj_right fun _ _ => String.ofList_injective,
    flatMap_words_eq_filter_iff, List.forall_mem_map]
  exact forall₂_congr fun t _ => not_isBlank_unquoted_iff t

/-- Two words between quotes are one free token and two terms. -/
theorem terms_of_quoted :
    (Request.ofLine "\"Ana Gil\"").terms = ["Ana", "Gil"] ∧
      freeTexts "\"Ana Gil\"" = ["Ana Gil"] := by
  decide +kernel

end Cuaderno.Search
