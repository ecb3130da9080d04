import Cuaderno.Proofs.Text.Words
import Cuaderno.Text.Markup

/-!
# What is left of marked-up content

A content is read from left to right: a tag begins at a `<` and ends at the next `>`, and what is
not in a tag is text (`Outside`). The plain text has the characters of the text, in order, with
nothing else between them than single spaces. No `<` that is left has a `>` behind it, since then
it would have begun a tag; so there is nothing left to remove (`plainText_spec`).
-/

namespace Cuaderno.Text

/-- The characters of a content outside its tags. A `<` that no `>` follows begins no tag. -/
inductive Outside : List Char → List Char → Prop
  | nil : Outside [] []
  | text {c : Char} {cs kept : List Char} (other : c ≠ '<') (rest : Outside cs kept) :
      Outside (c :: cs) (c :: kept)
  | tag {inner cs kept : List Char} (next : '>' ∉ inner) (rest : Outside cs kept) :
      Outside ('<' :: inner ++ '>' :: cs) kept
  | unclosed {cs kept : List Char} (unclosed : '>' ∉ cs) (rest : Outside cs kept) :
      Outside ('<' :: cs) ('<' :: kept)

variable {cs kept : List Char}

theorem Outside.sublist (h : Outside cs kept) : kept.Sublist cs := by
  induction h with
  | nil => exact .slnil
  | text _ _ ih => exact ih.cons_cons _
  | tag _ _ ih =>
    exact ih.trans ((List.sublist_cons_self _ _).trans (List.sublist_append_right _ _))
  | unclosed _ _ ih => exact ih.cons_cons _

theorem Outside.unique {other : List Char} (h : Outside cs kept) (ho : Outside cs other) :
    kept = other := by
  induction h generalizing other with
  | nil =>
    cases ho
    rfl
  | text hc _ ih =>
    cases ho with
    | text _ hrest => rw [ih hrest]
    | tag => exact absurd rfl hc
    | unclosed => exact absurd rfl hc
  | @tag inner cs kept hinner _ ih =>
    generalize hsplit : '<' :: inner ++ '>' :: cs = content at ho
    cases ho with
    | nil => cases hsplit
    | text hc => exact absurd (List.cons.inj hsplit).1.symm hc
    | @tag inner' cs' _ hinner' hrest =>
      rw [← rest_eq_of_append_eq hinner hinner' (List.cons.inj hsplit).2] at hrest
      exact ih hrest
    | unclosed hno =>
      refine absurd ?_ hno
      rw [← (List.cons.inj hsplit).2]
      exact List.mem_append_right _ List.mem_cons_self
  | unclosed hno _ ih =>
    generalize hsplit : '<' :: _ = content at ho
    cases ho with
    | nil => cases hsplit
    | text hc => exact absurd (List.cons.inj hsplit).1.symm hc
    | tag =>
      refine absurd ?_ hno
      rw [(List.cons.inj hsplit).2]
      exact List.mem_append_right _ List.mem_cons_self
    | unclosed _ hrest =>
      obtain ⟨-, rfl⟩ := List.cons.inj hsplit
      rw [ih hrest]

private theorem outside_self (h : '>' ∉ cs) : Outside cs cs := by
  induction cs with
  | nil => exact .nil
  | cons c cs ih =>
    rw [List.mem_cons, not_or] at h
    by_cases hc : c = '<'
    · rw [hc]
      exact .unclosed h.2 (ih h.2)
    · exact .text hc (ih h.2)

/-- No `<` that is kept has a `>` behind it. -/
theorem Outside.no_tag (h : Outside cs kept) : ¬ ['<', '>'].Sublist kept := by
  induction h with
  | nil => simp
  | text hc _ ih => rwa [List.cons_sublist_cons', not_or, and_iff_left (fun h => hc h.1.symm)]
  | tag _ _ ih => exact ih
  | unclosed hno hrest ih =>
    rw [List.cons_sublist_cons', not_or]
    refine ⟨ih, fun h => hno (hrest.sublist.subset ?_)⟩
    exact List.singleton_sublist.1 h.2

private theorem exists_tag {c : Char} {rest : List Char} (h : cs.dropWhile (· != '>') = c :: rest) :
    ∃ inner, '>' ∉ inner ∧ cs = inner ++ '>' :: rest := by
  refine ⟨_, not_mem_takeWhile '>' cs, ?_⟩
  rw [← eq_of_dropWhile h, ← h, eq_of_dropWhile h, List.takeWhile_append_dropWhile]

/-- Tags leave no trace but blanks. -/
theorem exists_outside (cs : List Char) : ∃ kept, Outside cs kept ∧
    (withoutTags cs).filter (!isBlank ·) = kept.filter (!isBlank ·) := by
  fun_induction withoutTags cs with
  | case1 => exact ⟨[], .nil, rfl⟩
  | case2 cs hdrop =>
    have hno := not_mem_of_dropWhile hdrop
    exact ⟨_, .unclosed hno (outside_self hno), rfl⟩
  | case3 cs c rest hdrop ih =>
    obtain ⟨kept, hkept, hfilter⟩ := ih
    obtain ⟨inner, hinner, rfl⟩ := exists_tag hdrop
    refine ⟨kept, .tag hinner hkept, ?_⟩
    rw [← hfilter, List.filter_cons_of_neg (by decide)]
  | case4 c cs hc ih =>
    obtain ⟨kept, hkept, hfilter⟩ := ih
    refine ⟨c :: kept, .text hc hkept, ?_⟩
    rw [List.filter_cons, List.filter_cons, hfilter]

private theorem withoutTags_eq_self (h : ¬ ['<', '>'].Sublist cs) : withoutTags cs = cs := by
  fun_induction withoutTags cs with
  | case1 => rfl
  | case2 => rfl
  | case3 cs c rest hdrop ih =>
    obtain ⟨inner, -, rfl⟩ := exists_tag hdrop
    refine absurd (List.Sublist.cons_cons '<' ?_) h
    rw [List.singleton_sublist]
    exact List.mem_append_right _ List.mem_cons_self
  | case4 c cs hc ih => rw [ih fun hsub => h (hsub.trans (List.sublist_cons_self _ _))]

private theorem words_plainText (cs : List Char) :
    words (plainText cs) = words (withoutTags cs) := by
  rw [plainText, words_intercalate (by decide)]
  exact flatMap_words fun w hw => isWord_of_mem_words hw

private theorem filter_plainText (cs : List Char) :
    (plainText cs).filter (!isBlank ·) = (withoutTags cs).filter (!isBlank ·) := by
  rw [← flatten_words, words_plainText, flatten_words]

private theorem not_tag_plainText (cs : List Char) : ¬ ['<', '>'].Sublist (plainText cs) := by
  obtain ⟨kept, hkept, hfilter⟩ := exists_outside cs
  intro htag
  -- neither sign is a blank, so both would be among the characters that are kept
  have hsigns : (['<', '>'].filter (!isBlank ·)).Sublist
      ((plainText cs).filter (!isBlank ·)) := htag.filter _
  rw [filter_plainText, hfilter] at hsigns
  exact hkept.no_tag (hsigns.trans List.filter_sublist)

private theorem plainText_plainText (cs : List Char) : plainText (plainText cs) = plainText cs := by
  calc plainText (plainText cs)
      = [' '].intercalate (words (plainText cs)) := by
        rw [plainText, withoutTags_eq_self (not_tag_plainText cs)]
    _ = [' '].intercalate (words (withoutTags cs)) := by rw [words_plainText]
    _ = plainText cs := rfl

/-- The plain text of a content has no tag left, so taking it again changes nothing. Its blanks are
single spaces between other characters, and these are the characters outside the tags. -/
theorem plainText_spec (cs : List Char) :
    plainText (plainText cs) = plainText cs ∧ ¬ ['<', '>'].Sublist (plainText cs) ∧
      SinglySpaced (plainText cs) ∧ (∃! kept, Outside cs kept) ∧
      ∀ kept, Outside cs kept →
        (plainText cs).filter (!isBlank ·) = kept.filter (!isBlank ·) := by
  obtain ⟨text, htext, hfilter⟩ := exists_outside cs
  refine ⟨plainText_plainText cs, not_tag_plainText cs, ?_,
    ⟨text, htext, fun other ho => ho.unique htext⟩, ?_⟩
  · exact singlySpaced_intercalate fun w hw => isWord_of_mem_words hw
  · intro kept hkept
    rw [hkept.unique htext, filter_plainText, hfilter]

example : plainText "<p>a < b\n <<i>c</i>> <d".toList = "a c > <d".toList := by cbv

end Cuaderno.Text
