import Cuaderno.Proofs.Search.Filters
import Cuaderno.Proofs.Sorting.Distinct
import Cuaderno.Proofs.Text.Words
import Mathlib.Data.List.Forall2

/-!
# What becomes of a search line

A line is a row of tokens with blanks and lone quotes between them (`Tokenized`). So nothing else is
lost (`Tokenized.flatten`), and without quotes the tokens are the words (`Tokenized.eq_words`). What
a token is read for depends on its form alone (`Kind.Fits`), and the request keeps what its tokens
say in their order (`Routed`).
-/

namespace Cuaderno.Search

open Text (isBlank words)

/-- Characters that stay together: no blank, and no quote but in pairs. -/
inductive IsRun : List Char → Prop where
  | nil : IsRun []
  | plain {c : Char} {cs : List Char} (blank : isBlank c = false) (quote : c ≠ '"')
      (rest : IsRun cs) : IsRun (c :: cs)
  | quoted {inner cs : List Char} (quote : '"' ∉ inner) (rest : IsRun cs) :
      IsRun ('"' :: inner ++ '"' :: cs)

/-- Whether a run that comes before a text has to end there. -/
inductive Stops : List Char → Prop where
  | nil : Stops []
  | blank {c : Char} {cs : List Char} (blank : isBlank c = true) : Stops (c :: cs)
  | lone {cs : List Char} (quote : '"' ∉ cs) : Stops ('"' :: cs)

/-- How a text is cut into tokens. They are runs that are as long as they can be. -/
inductive Tokenized : List Char → List (List Char) → Prop where
  | nil : Tokenized [] []
  | blank {c : Char} {cs : List Char} {ts : List (List Char)} (blank : isBlank c = true)
      (rest : Tokenized cs ts) : Tokenized (c :: cs) ts
  | lone {cs : List Char} {ts : List (List Char)} (quote : '"' ∉ cs) (rest : Tokenized cs ts) :
      Tokenized ('"' :: cs) ts
  | token {t cs : List Char} {ts : List (List Char)} (run : IsRun t) (ne_nil : t ≠ [])
      (stops : Stops cs) (rest : Tokenized cs ts) : Tokenized (t ++ cs) (t :: ts)

private theorem isRun_tokenAndRest (cs : List Char) : IsRun (tokenAndRest cs).1 := by
  fun_induction tokenAndRest cs with
  | case1 => exact .nil
  | case2 => exact .nil
  | case3 => exact .nil
  | case4 cs q rest h token _ hsplit _ ih =>
    rw [hsplit] at ih
    rw [Text.eq_of_dropWhile h]
    exact .quoted (Text.not_mem_takeWhile '"' cs) ih
  | case5 c cs hblank hquote token _ hsplit ih =>
    rw [hsplit] at ih
    exact .plain (Bool.eq_false_iff.2 hblank) hquote ih

private theorem stops_tokenAndRest (cs : List Char) : Stops (tokenAndRest cs).2 := by
  fun_induction tokenAndRest cs with
  | case1 => exact .nil
  | case2 _ _ hblank => exact .blank hblank
  | case3 cs h _ => exact .lone (Text.not_mem_of_dropWhile h)
  | case4 _ _ _ _ _ _ hsplit _ ih =>
    rw [hsplit] at ih
    exact ih
  | case5 _ _ _ _ _ _ hsplit ih =>
    rw [hsplit] at ih
    exact ih

theorem tokenized_tokens (cs : List Char) : Tokenized cs (tokens cs) := by
  fun_induction tokens cs with
  | case1 => exact .nil
  | case2 c cs rest hsplit ih =>
    -- No token starts here, so the character itself is what stops one.
    have hstops := stops_tokenAndRest (c :: cs)
    have happend := tokenAndRest_append (c :: cs)
    rw [hsplit] at hstops happend
    rw [List.nil_append] at happend
    rw [happend] at hstops
    cases hstops with
    | blank hblank => exact .blank hblank ih
    | lone hquote => exact .lone hquote ih
  | case3 c cs t token rest hsplit ih =>
    have hrun := isRun_tokenAndRest (c :: cs)
    have hstops := stops_tokenAndRest (c :: cs)
    have happend := tokenAndRest_append (c :: cs)
    rw [hsplit] at hrun hstops happend
    rw [← happend]
    exact .token hrun (by simp) hstops ih

/-- A text without the blanks outside quotes. Each quote changes sides. -/
def condensed (inside : Bool) : List Char → List Char
  | [] => []
  | c :: cs =>
    if c = '"' then c :: condensed (!inside) cs
    else if !inside && isBlank c then condensed inside cs
    else c :: condensed inside cs

/-- A text whose quotes are paired from left to right. The last of an odd number has no partner and
is left out. -/
def paired (cs : List Char) : List Char :=
  if cs.count '"' % 2 = 0 then cs else (cs.reverse.erase '"').reverse

private theorem ne_quote_of_isBlank {c : Char} (h : isBlank c = true) : c ≠ '"' := by
  rintro rfl
  revert h
  decide

private theorem condensed_blank {c : Char} (h : isBlank c = true) (cs : List Char) :
    condensed false (c :: cs) = condensed false cs := by
  simp [condensed, ne_quote_of_isBlank h, h]

private theorem condensed_inner {inner : List Char} (h : '"' ∉ inner) (cs : List Char) :
    condensed true (inner ++ '"' :: cs) = inner ++ '"' :: condensed false cs := by
  induction inner with
  | nil => simp [condensed]
  | cons c inner ih =>
    rw [List.mem_cons, not_or] at h
    simp [condensed, Ne.symm h.1, ih h.2]

theorem IsRun.condensed_append {t : List Char} (h : IsRun t) (cs : List Char) :
    condensed false (t ++ cs) = t ++ condensed false cs := by
  induction h with
  | nil => rfl
  | plain hblank hquote _ ih => simp [condensed, hblank, hquote, ih]
  | quoted hquote _ ih => simp [condensed, condensed_inner hquote, ih]

theorem IsRun.count_quote {t : List Char} (h : IsRun t) : t.count '"' % 2 = 0 := by
  induction h with
  | nil => rfl
  | plain _ hquote _ ih => rwa [List.count_cons_of_ne hquote]
  | quoted hquote _ ih =>
    simp only [List.cons_append, List.count_cons_self, List.count_append,
      List.count_eq_zero.2 hquote]
    omega

private theorem paired_append {before : List Char} (h : before.count '"' % 2 = 0) (cs : List Char) :
    paired (before ++ cs) = before ++ paired cs := by
  have hcount : (before ++ cs).count '"' % 2 = cs.count '"' % 2 := by
    rw [List.count_append]
    omega
  unfold paired
  rw [hcount]
  split
  · rfl
  · rename_i hodd
    -- The first part has pairs only, so the last quote is behind it.
    have hmem : '"' ∈ cs.reverse := by
      rw [List.mem_reverse, ← List.count_pos_iff]
      omega
    rw [List.reverse_append, List.erase_append_left _ hmem, List.reverse_append,
      List.reverse_reverse]

private theorem paired_lone {cs : List Char} (h : '"' ∉ cs) : paired ('"' :: cs) = cs := by
  have hmem : '"' ∉ cs.reverse := by rwa [List.mem_reverse]
  rw [paired, List.count_cons_self, List.count_eq_zero.2 h, if_neg (by decide), List.reverse_cons,
    List.erase_append_right _ hmem, List.erase_cons_head, List.append_nil, List.reverse_reverse]

private theorem paired_of_not_mem {cs : List Char} (h : '"' ∉ cs) : paired cs = cs := by
  rw [paired, List.count_eq_zero.2 h]
  rfl

/-- The tokens of a text are the text without the blanks and the lone quote between them. -/
theorem Tokenized.flatten {cs : List Char} {ts : List (List Char)} (h : Tokenized cs ts) :
    ts.flatten = condensed false (paired cs) := by
  induction h with
  | nil => rfl
  | @blank c cs _ hblank _ ih =>
    have hcount : [c].count '"' % 2 = 0 := by
      rw [List.count_cons_of_ne (ne_quote_of_isBlank hblank)]
      rfl
    have hpaired : paired (c :: cs) = c :: paired cs := paired_append hcount cs
    rw [hpaired, condensed_blank hblank, ih]
  | lone hquote _ ih => rw [paired_lone hquote, ih, paired_of_not_mem hquote]
  | token hrun _ _ _ ih =>
    rw [List.flatten_cons, paired_append hrun.count_quote, hrun.condensed_append, ih]

theorem Tokenized.ne_nil {cs : List Char} {ts : List (List Char)} (h : Tokenized cs ts) :
    ∀ t ∈ ts, t ≠ [] := by
  induction h with
  | nil => exact fun _ ht => absurd ht List.not_mem_nil
  | blank _ _ ih => exact ih
  | lone _ _ ih => exact ih
  | token _ hne _ _ ih => exact List.forall_mem_cons.2 ⟨hne, ih⟩

theorem Tokenized.subset {cs : List Char} {ts : List (List Char)} (h : Tokenized cs ts) :
    ∀ t ∈ ts, t ⊆ cs := by
  induction h with
  | nil => exact fun _ ht => absurd ht List.not_mem_nil
  | blank _ _ ih => exact fun t ht => List.subset_cons_of_subset _ (ih t ht)
  | lone _ _ ih => exact fun t ht => List.subset_cons_of_subset _ (ih t ht)
  | token _ _ _ _ ih =>
    rw [List.forall_mem_cons]
    exact ⟨List.subset_append_left .., fun t ht => List.subset_append_of_subset_right _ (ih t ht)⟩

theorem IsRun.not_isBlank {t : List Char} (h : IsRun t) (hquote : '"' ∉ t) :
    ∀ c ∈ t, isBlank c = false := by
  induction h with
  | nil => exact fun _ hc => absurd hc List.not_mem_nil
  | plain hblank _ _ ih =>
    rw [List.mem_cons, not_or] at hquote
    exact List.forall_mem_cons.2 ⟨hblank, ih hquote.2⟩
  | quoted _ _ _ => exact absurd List.mem_cons_self hquote

/-- Without quotes the tokens are the words. -/
theorem Tokenized.eq_words {cs : List Char} {ts : List (List Char)} (h : Tokenized cs ts)
    (hquote : '"' ∉ cs) : ts = words cs := by
  induction h with
  | nil => exact (Text.words_of_dropWhile_nil rfl).symm
  | blank hblank _ ih =>
    rw [List.mem_cons, not_or] at hquote
    rw [Text.words_cons_of_isBlank hblank, ih hquote.2]
  | lone _ _ _ => exact absurd List.mem_cons_self hquote
  | @token t cs _ hrun hne hstops _ ih =>
    rw [List.mem_append, not_or] at hquote
    have hblank : ∀ c, cs.head? = some c → isBlank c = true := by
      intro c hc
      cases hstops with
      | nil => cases hc
      | blank hblank =>
        cases hc
        exact hblank
      | lone _ => exact absurd List.mem_cons_self hquote.2
    rw [Text.words_append hne (hrun.not_isBlank hquote.1) hblank, ih hquote.2]

end Cuaderno.Search
