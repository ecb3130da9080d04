import Cuaderno.Text.Fold
import Mathlib.Data.List.TakeWhile

/-!
# Terms in folded texts

A term is looked for in the folded form of a text. It has no blank at either end, so blanks around
the text hide no place of it and add none: it makes no difference whether the text is trimmed
before it is folded, afterwards, or not at all (`infix_fold`, `infix_foldChars_trim`).
-/

namespace Cuaderno.Text

def blanks : List Char :=
  [9, 10, 11, 12, 13, 28, 29, 30, 31, 32, 0x85, 0xA0, 0x1680, 0x2000, 0x2001, 0x2002, 0x2003,
    0x2004, 0x2005, 0x2006, 0x2007, 0x2008, 0x2009, 0x200A, 0x2028, 0x2029, 0x202F, 0x205F,
    0x3000].map Char.ofNat

theorem mem_blanks {c : Char} (h : isBlank c = true) : c ∈ blanks := by
  have hc : c = Char.ofNat c.toNat := by simp
  rw [hc]
  apply List.mem_map_of_mem
  simp only [isBlank, Bool.or_eq_true, Bool.and_eq_true, decide_eq_true_eq, beq_iff_eq] at h
  simp only [List.mem_cons, List.not_mem_nil, or_false]
  omega

private theorem all_foldChar_blanks : blanks.all (fun c => (foldChar c).all isBlank) = true := by
  decide +kernel

private theorem isBlank_of_mem_foldChars {cs : List Char} (h : ∀ c ∈ cs, isBlank c = true) :
    ∀ d ∈ foldChars cs, isBlank d = true := by
  intro d hd
  obtain ⟨c, hc, hdc⟩ := List.mem_flatMap.1 hd
  have hall := List.all_eq_true.1 all_foldChar_blanks c (mem_blanks (h c hc))
  exact List.all_eq_true.1 hall d hdc

/-- A text to look for: it is not empty, and has no blank at either end. -/
structure IsTerm (term : List Char) : Prop where
  ne_nil : term ≠ []
  trim_eq : trim term = term

theorem isTerm_fold {cs : List Char} (h : fold cs ≠ []) : IsTerm (fold cs) where
  ne_nil := h
  trim_eq := trim_trim _

variable {term : List Char}

theorem IsTerm.isBlank_head {c : Char} {cs : List Char} (ht : IsTerm (c :: cs)) :
    isBlank c = false := by
  apply @head?_trim (c :: cs)
  rw [ht.trim_eq, List.head?_cons]

theorem IsTerm.reverse (ht : IsTerm term) : IsTerm term.reverse where
  ne_nil := by simpa using ht.ne_nil
  trim_eq := by
    apply trim_eq_self
    · intro c hc
      rw [List.head?_reverse] at hc
      apply @getLast?_trim term
      rw [ht.trim_eq, hc]
    · intro c hc
      rw [List.getLast?_reverse] at hc
      apply @head?_trim term
      rw [ht.trim_eq, hc]

theorem IsTerm.infix_blanks_append (ht : IsTerm term) {before : List Char}
    (hb : ∀ c ∈ before, isBlank c = true) (cs : List Char) :
    term <:+: before ++ cs ↔ term <:+: cs := by
  induction before with
  | nil => rfl
  | cons b before ih =>
    have hp : ¬ term <+: b :: (before ++ cs) := by
      intro hp
      cases term with
      | nil => exact ht.ne_nil rfl
      | cons c term =>
        have hcb : c = b := (List.cons_prefix_cons.1 hp).1
        have hc := ht.isBlank_head
        rw [hcb, hb b (List.mem_cons_self ..)] at hc
        cases hc
    rw [List.cons_append, List.infix_cons_iff, or_iff_right hp]
    exact ih fun c hc => hb c (List.mem_cons_of_mem _ hc)

theorem IsTerm.infix_append_blanks (ht : IsTerm term) {after : List Char}
    (ha : ∀ c ∈ after, isBlank c = true) (cs : List Char) :
    term <:+: cs ++ after ↔ term <:+: cs := by
  rw [← List.reverse_infix, List.reverse_append, ht.reverse.infix_blanks_append, List.reverse_infix]
  intro c hc
  exact ha c (List.mem_reverse.1 hc)

/-- A text starts with a term or does not, whatever blanks stand behind it. -/
theorem IsTerm.prefix_append_blanks (ht : IsTerm term) {after : List Char}
    (ha : ∀ c ∈ after, isBlank c = true) (cs : List Char) :
    term <+: cs ++ after ↔ term <+: cs := by
  constructor
  · rintro ⟨rest, hrest⟩
    rcases List.append_eq_append_iff.1 hrest with ⟨more, hcs, -⟩ | ⟨more, hterm, hafter⟩
    · exact ⟨more, hcs.symm⟩
    · rcases List.eq_nil_or_concat more with rfl | ⟨others, c, rfl⟩
      · rw [List.append_nil] at hterm
        exact hterm ▸ List.prefix_rfl
      · -- a term does not end with one of the blanks
        have hlast : isBlank c = false := by
          apply @getLast?_trim term
          rw [ht.trim_eq, hterm, List.concat_eq_append, ← List.append_assoc, List.getLast?_concat]
        have hblank : isBlank c = true := ha c (by simp [hafter])
        rw [hlast] at hblank
        cases hblank
  · intro h
    exact h.trans (List.prefix_append ..)

theorem trim_blanks_append {before : List Char} (hb : ∀ c ∈ before, isBlank c = true)
    (cs : List Char) : trim (before ++ cs) = trim cs := by
  rw [trim, trimStart, List.dropWhile_append_of_pos hb, trim, trimStart]

private theorem trimEnd_append_blanks {after : List Char} (ha : ∀ c ∈ after, isBlank c = true)
    (cs : List Char) : trimEnd (cs ++ after) = trimEnd cs := by
  rw [trimEnd, List.reverse_append, List.dropWhile_append_of_pos, trimEnd]
  intro c hc
  exact ha c (List.mem_reverse.1 hc)

private theorem trim_append_blanks {after : List Char} (ha : ∀ c ∈ after, isBlank c = true)
    (cs : List Char) : trim (cs ++ after) = trim cs := by
  rw [trim, trimStart, List.dropWhile_append]
  split
  · rename_i hcs
    have hafter : after.dropWhile isBlank = [] := List.dropWhile_eq_nil_iff.2 ha
    rw [hafter, trim, trimStart, List.isEmpty_iff.1 hcs]
  · exact trimEnd_append_blanks ha _

theorem exists_blanks_trim (cs : List Char) : ∃ before after, cs = before ++ (trim cs ++ after) ∧
    (∀ c ∈ before, isBlank c = true) ∧ ∀ c ∈ after, isBlank c = true := by
  refine ⟨cs.takeWhile isBlank, ((trimStart cs).reverse.takeWhile isBlank).reverse, ?_, ?_, ?_⟩
  · have hend : trim cs ++ ((trimStart cs).reverse.takeWhile isBlank).reverse = trimStart cs := by
      rw [trim, trimEnd, ← List.reverse_append, List.takeWhile_append_dropWhile,
        List.reverse_reverse]
    rw [hend, trimStart, List.takeWhile_append_dropWhile]
  · intro c hc
    exact List.mem_takeWhile_imp hc
  · intro c hc
    exact List.mem_takeWhile_imp (List.mem_reverse.1 hc)

theorem IsTerm.infix_trim (ht : IsTerm term) (cs : List Char) :
    term <:+: trim cs ↔ term <:+: cs := by
  obtain ⟨before, after, hcs, hb, ha⟩ := exists_blanks_trim cs
  calc term <:+: trim cs
    _ ↔ term <:+: trim cs ++ after := (ht.infix_append_blanks ha _).symm
    _ ↔ term <:+: before ++ (trim cs ++ after) := (ht.infix_blanks_append hb _).symm
    _ ↔ term <:+: cs := by rw [← hcs]

/-- When a text starts with no blank, it starts with the terms that its trimmed form starts with. -/
theorem IsTerm.prefix_trim (ht : IsTerm term) {cs : List Char}
    (hhead : ∀ c, cs.head? = some c → isBlank c = false) : term <+: trim cs ↔ term <+: cs := by
  obtain ⟨before, after, hcs, hbefore, hafter⟩ := exists_blanks_trim cs
  have hnil : before = [] := by
    cases before with
    | nil => rfl
    | cons b before =>
      have hb := hhead b (by rw [hcs]; rfl)
      rw [hbefore b (List.mem_cons_self ..)] at hb
      cases hb
  calc term <+: trim cs
    _ ↔ term <+: trim cs ++ after := (ht.prefix_append_blanks hafter _).symm
    _ ↔ term <+: before ++ (trim cs ++ after) := by rw [hnil, List.nil_append]
    _ ↔ term <+: cs := by rw [← hcs]

/-- A term occurs in the trimmed folded form of a text exactly when it occurs in the folded form. -/
theorem IsTerm.infix_fold (ht : IsTerm term) (cs : List Char) :
    term <:+: fold cs ↔ term <:+: foldChars cs := ht.infix_trim _

/-- The folded form of a text is that of its trimmed form with blanks around it. -/
theorem exists_blanks_foldChars (cs : List Char) : ∃ before after,
    foldChars cs = before ++ (foldChars (trim cs) ++ after) ∧
      (∀ c ∈ before, isBlank c = true) ∧ ∀ c ∈ after, isBlank c = true := by
  obtain ⟨before, after, hcs, hb, ha⟩ := exists_blanks_trim cs
  refine ⟨foldChars before, foldChars after, ?_, isBlank_of_mem_foldChars hb,
    isBlank_of_mem_foldChars ha⟩
  rw [← foldChars_append, ← foldChars_append, ← hcs]

/-- Trimming a text before it is folded hides no place of a term. -/
theorem IsTerm.infix_foldChars_trim (ht : IsTerm term) (cs : List Char) :
    term <:+: foldChars (trim cs) ↔ term <:+: foldChars cs := by
  obtain ⟨before, after, hfold, hb, ha⟩ := exists_blanks_foldChars cs
  rw [hfold, ht.infix_blanks_append hb, ht.infix_append_blanks ha]

/-- Trimming a text before it is folded changes nothing. -/
theorem fold_trim (cs : List Char) : fold (trim cs) = fold cs := by
  obtain ⟨before, after, hfold, hb, ha⟩ := exists_blanks_foldChars cs
  rw [fold, fold, hfold, trim_blanks_append hb, trim_append_blanks ha]

/-- What is dropped in front of a text ends within it, so that it makes no difference what
follows. -/
theorem dropWhile_append_of_mem {p : Char → Bool} {xs : List Char} (h : ∃ c ∈ xs, p c = false)
    (ys : List Char) : xs.dropWhile p ≠ [] ∧ (xs ++ ys).dropWhile p = xs.dropWhile p ++ ys := by
  obtain ⟨c, hc, hp⟩ := h
  have hne : xs.dropWhile p ≠ [] := by
    intro hnil
    rw [List.dropWhile_eq_nil_iff.1 hnil c hc] at hp
    cases hp
  refine ⟨hne, ?_⟩
  rw [List.dropWhile_append, if_neg (by simpa using hne)]

variable {xs ys : List Char}

theorem trimStart_mono (h : xs <+: ys) : trimStart xs <+: trimStart ys := by
  obtain ⟨more, rfl⟩ := h
  by_cases hblank : ∃ c ∈ xs, isBlank c = false
  · rw [trimStart, trimStart, (dropWhile_append_of_mem hblank more).2]
    exact List.prefix_append ..
  · have hnil : trimStart xs = [] := by
      rw [trimStart, List.dropWhile_eq_nil_iff]
      simpa using hblank
    rw [hnil]
    exact List.nil_prefix

private theorem trimEnd_mono (h : xs <+: ys) : trimEnd xs <+: trimEnd ys := by
  obtain ⟨more, rfl⟩ := h
  by_cases hblank : ∃ c ∈ more.reverse, isBlank c = false
  · have hend : trimEnd (xs ++ more) = xs ++ trimEnd more := by
      rw [trimEnd, List.reverse_append, (dropWhile_append_of_mem hblank _).2, List.reverse_append,
        List.reverse_reverse, trimEnd]
    rw [hend]
    exact (trimEnd_isPrefix xs).trans (List.prefix_append ..)
  · have hend : trimEnd (xs ++ more) = trimEnd xs :=
      trimEnd_append_blanks (by simpa using hblank) xs
    exact hend ▸ List.prefix_rfl

theorem trim_mono (h : xs <+: ys) : trim xs <+: trim ys := trimEnd_mono (trimStart_mono h)

theorem fold_mono (h : xs <+: ys) : fold xs <+: fold ys := by
  obtain ⟨more, rfl⟩ := h
  rw [fold, fold, foldChars_append]
  exact trim_mono (List.prefix_append ..)

end Cuaderno.Text
