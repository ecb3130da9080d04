import Cuaderno.Text.Blank
import Mathlib.Data.List.Basic
import Mathlib.Data.List.TakeWhile

/-!
# Words and the blanks between them

All about the words of a text follows from what a blank does in it: it ends one word and belongs to
none (`words_append_blank`). So the words are what is left without the blanks (`flatten_words`), and
texts that are joined by a blank have the words of the texts (`words_intercalate`). Words that are
joined by one space make a text without other blanks (`singlySpaced_intercalate`).
-/

namespace Cuaderno.Text

/-- A word: it is not empty, and no blank is in it. -/
structure IsWord (w : List Char) : Prop where
  ne_nil : w ≠ []
  not_isBlank : ∀ c ∈ w, isBlank c = false

/-- Whether each blank of a text is a space between two characters that are not blank. -/
def SinglySpaced (cs : List Char) : Prop :=
  ∀ before c after, cs = before ++ c :: after → isBlank c = true →
    c = ' ' ∧ (∃ d ∈ before.getLast?, isBlank d = false) ∧ ∃ d ∈ after.head?, isBlank d = false

variable {cs w : List Char} {c sep : Char}

private theorem head_dropWhile {p : Char → Bool} {rest : List Char}
    (h : cs.dropWhile p = c :: rest) :
    p c = false := by
  have hhead := List.head?_dropWhile_not p cs
  rw [h] at hhead
  simpa using hhead

theorem eq_of_dropWhile {rest : List Char} (h : cs.dropWhile (· != sep) = c :: rest) : c = sep := by
  simpa using head_dropWhile h

theorem not_mem_of_dropWhile (h : cs.dropWhile (· != sep) = []) : sep ∉ cs := by
  intro hmem
  simpa using List.dropWhile_eq_nil_iff.1 h sep hmem

theorem not_mem_takeWhile (sep : Char) (cs : List Char) : sep ∉ cs.takeWhile (· != sep) := by
  intro hmem
  simpa using List.mem_takeWhile_imp hmem

/-- What is behind the first of some character does not depend on how it was split off. -/
theorem rest_eq_of_append_eq {front other rest last : List Char} (h : sep ∉ front)
    (ho : sep ∉ other) (heq : front ++ sep :: rest = other ++ sep :: last) : rest = last := by
  have hkeep {text : List Char} (htext : sep ∉ text) : ∀ c ∈ text, (c != sep) = true := by
    intro c hc
    simp [ne_of_mem_of_not_mem hc htext]
  have hdrop := congrArg (List.dropWhile (· != sep)) heq
  rw [List.dropWhile_append_of_pos (hkeep h), List.dropWhile_append_of_pos (hkeep ho)] at hdrop
  simpa using hdrop

theorem words_nil : words [] = [] := words_of_dropWhile_nil rfl

/-- What is left of a text behind the blanks in front starts with a word. -/
theorem isWord_front {rest : List Char} (h : cs.dropWhile isBlank = c :: rest) :
    IsWord (c :: rest.takeWhile (!isBlank ·)) := by
  refine ⟨List.cons_ne_nil _ _, ?_⟩
  rw [List.forall_mem_cons]
  exact ⟨head_dropWhile h, fun d hd => by simpa using List.mem_takeWhile_imp hd⟩

theorem isWord_of_mem_words (h : w ∈ words cs) : IsWord w := by
  fun_induction words cs with
  | case1 => cases h
  | case2 cs c rest hdrop ih =>
    rcases List.mem_cons.1 h with rfl | h
    · exact isWord_front hdrop
    · exact ih h

theorem words_of_isWord (h : IsWord w) : words w = [w] := by
  have hword : words (w ++ []) = w :: words [] :=
    words_append h.ne_nil h.not_isBlank fun _ hc => by cases hc
  rw [List.append_nil] at hword
  rw [hword, words_nil]

private theorem words_dropWhile (cs : List Char) : words (cs.dropWhile isBlank) = words cs := by
  induction cs with
  | nil => rfl
  | cons c cs ih =>
    by_cases hc : isBlank c = true
    · rw [List.dropWhile_cons_of_pos hc, words_cons_of_isBlank hc, ih]
    · rw [List.dropWhile_cons_of_neg hc]

/-- A blank ends a word and belongs to none. -/
theorem words_append_blank (hc : isBlank c = true) (as bs : List Char) :
    words (as ++ c :: bs) = words as ++ words bs := by
  fun_induction words as with
  | case1 as hdrop =>
    have hblank : (as ++ c :: bs).dropWhile isBlank = (c :: bs).dropWhile isBlank := by
      rw [List.dropWhile_append, hdrop, List.isEmpty_nil, if_pos rfl]
    rw [List.nil_append, ← words_dropWhile, hblank, words_dropWhile, words_cons_of_isBlank hc]
  | case2 as a rest hdrop ih =>
    have hword := isWord_front hdrop
    -- behind the first word comes a blank, whether anything of the front is left or not
    have hstop : ∀ d, (rest.dropWhile (!isBlank ·) ++ c :: bs).head? = some d →
        isBlank d = true := by
      intro d hd
      cases hrest : rest.dropWhile (!isBlank ·) with
      | nil =>
        rw [hrest] at hd
        cases hd
        exact hc
      | cons e others =>
        rw [hrest] at hd
        cases hd
        simpa using head_dropWhile hrest
    have hsplit : (as ++ c :: bs).dropWhile isBlank =
        (a :: rest.takeWhile (!isBlank ·)) ++ (rest.dropWhile (!isBlank ·) ++ c :: bs) := by
      have hrest : (a :: rest.takeWhile (!isBlank ·)) ++ rest.dropWhile (!isBlank ·) =
          a :: rest := by
        rw [List.cons_append, List.takeWhile_append_dropWhile]
      rw [List.dropWhile_append, hdrop, List.isEmpty_cons, if_neg Bool.false_ne_true,
        ← List.append_assoc, hrest]
    rw [← words_dropWhile, hsplit, words_append hword.ne_nil hword.not_isBlank hstop, ih,
      List.cons_append]

theorem flatten_words (cs : List Char) : (words cs).flatten = cs.filter (!isBlank ·) := by
  fun_induction words cs with
  | case1 cs hdrop =>
    have hblank : ∀ c ∈ cs, isBlank c = true := List.dropWhile_eq_nil_iff.1 hdrop
    rw [List.flatten_nil, eq_comm, List.filter_eq_nil_iff]
    intro c hc
    simp [hblank c hc]
  | case2 cs c rest hdrop ih =>
    have hfront : (cs.takeWhile isBlank).filter (!isBlank ·) = [] := by
      rw [List.filter_eq_nil_iff]
      intro d hd
      simp [List.mem_takeWhile_imp hd]
    have hword : (c :: rest.takeWhile (!isBlank ·)).filter (!isBlank ·) =
        c :: rest.takeWhile (!isBlank ·) :=
      List.filter_eq_self.2 fun d hd => by simp [(isWord_front hdrop).not_isBlank d hd]
    calc ((c :: rest.takeWhile (!isBlank ·)) :: words (rest.dropWhile (!isBlank ·))).flatten
        = (c :: rest.takeWhile (!isBlank ·)).filter (!isBlank ·) ++
            (rest.dropWhile (!isBlank ·)).filter (!isBlank ·) := by
          rw [List.flatten_cons, ih, hword]
      _ = (cs.dropWhile isBlank).filter (!isBlank ·) := by
          rw [← List.filter_append, List.cons_append, List.takeWhile_append_dropWhile, hdrop]
      _ = (cs.takeWhile isBlank ++ cs.dropWhile isBlank).filter (!isBlank ·) := by
          rw [List.filter_append, hfront, List.nil_append]
      _ = cs.filter (!isBlank ·) := by rw [List.takeWhile_append_dropWhile]

/-- Texts that are joined by a blank have the words of the texts, in order. -/
theorem words_intercalate (hsep : isBlank sep = true) (texts : List (List Char)) :
    words ([sep].intercalate texts) = texts.flatMap words := by
  induction texts with
  | nil => exact words_nil
  | cons text texts ih =>
    cases texts with
    | nil => simp
    | cons next texts =>
      rw [List.intercalate_cons_cons, List.append_assoc, List.singleton_append,
        words_append_blank hsep, ih, @List.flatMap_cons _ _ text]

theorem flatMap_words {ws : List (List Char)} (h : ∀ w ∈ ws, IsWord w) :
    ws.flatMap words = ws := by
  induction ws with
  | nil => rfl
  | cons w ws ih =>
    rw [List.forall_mem_cons] at h
    rw [List.flatMap_cons, words_of_isWord h.1, ih h.2, List.singleton_append]

theorem SinglySpaced.append_space (hw : IsWord w) (h : SinglySpaced cs)
    (hhead : ∃ d ∈ cs.head?, isBlank d = false) : SinglySpaced (w ++ ' ' :: cs) := by
  intro before c after hsplit hc
  rcases List.append_eq_append_iff.1 hsplit with ⟨more, rfl, hmore⟩ | ⟨more, rfl, hmore⟩
  · cases more with
    | nil =>
      -- the blank is the space itself
      cases hmore
      refine ⟨rfl, ⟨w.getLast hw.ne_nil, ?_, hw.not_isBlank _ (List.getLast_mem _)⟩, hhead⟩
      rw [List.append_nil, Option.mem_def, List.getLast?_eq_some_getLast]
    | cons space more =>
      obtain ⟨rfl, rfl⟩ := List.cons.inj hmore
      obtain ⟨hspace, ⟨d, hd, hblank⟩, hafter⟩ := h more c after rfl hc
      refine ⟨hspace, ⟨d, ?_, hblank⟩, hafter⟩
      rw [Option.mem_def] at hd ⊢
      simp [List.getLast?_append, List.getLast?_cons, hd]
  · cases more with
    | nil =>
      cases hmore
      refine ⟨rfl, ⟨before.getLast (by simpa using hw.ne_nil), ?_, ?_⟩, hhead⟩
      · rw [Option.mem_def, List.getLast?_eq_some_getLast]
      · exact hw.not_isBlank _ (by simp)
    | cons own more =>
      -- the words have no blank
      obtain ⟨rfl, -⟩ := List.cons.inj hmore
      rw [hw.not_isBlank c (by simp)] at hc
      cases hc

theorem singlySpaced_intercalate {ws : List (List Char)} (h : ∀ w ∈ ws, IsWord w) :
    SinglySpaced ([' '].intercalate ws) := by
  induction ws with
  | nil =>
    intro before c after hsplit
    simp at hsplit
  | cons w ws ih =>
    rw [List.forall_mem_cons] at h
    cases ws with
    | nil =>
      intro before c after hsplit hc
      have hmem : c ∈ w := by
        rw [List.intercalate_singleton] at hsplit
        simp [hsplit]
      rw [h.1.not_isBlank c hmem] at hc
      cases hc
    | cons next ws =>
      rw [List.intercalate_cons_cons, List.append_assoc, List.singleton_append]
      refine SinglySpaced.append_space h.1 (ih h.2) ?_
      have hnext : IsWord next := h.2 next List.mem_cons_self
      obtain ⟨d, rest, rfl⟩ := List.exists_cons_of_ne_nil hnext.ne_nil
      refine ⟨d, ?_, hnext.not_isBlank d List.mem_cons_self⟩
      cases ws with
      | nil => simp
      | cons _ _ => simp [List.intercalate_cons_cons]

end Cuaderno.Text
