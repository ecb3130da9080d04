import Cuaderno.Proofs.Number.PlainText
import Cuaderno.Proofs.Text.Folding
import Cuaderno.QuickEntry.TypedNumber

/-!
# Digits in groups of three

A whole number may be written with its digits in groups of three, which a mark or a space parts
(`grouped`). Without this mark it is written as any number (`without_grouped`), and spaces are
dropped wherever they stand (`withoutSpaces_trim`).
-/

namespace Cuaderno.QuickEntry

open Cuaderno.Number (signText)
open Cuaderno.Text (digitChar digitsOf exists_digit_of_mem exists_digit_of_mem_natText isBlank
  lt_of_mem_digitsOf natText paddedText)

section Without

variable {mark : Char} {cs ds : List Char}

theorem without_append : without mark (cs ++ ds) = without mark cs ++ without mark ds :=
  List.filter_append ..

theorem without_eq_self (h : mark ∉ cs) : without mark cs = cs := by
  apply List.filter_eq_self.2
  intro c hc
  rw [bne_iff_ne]
  rintro rfl
  exact h hc

theorem without_cons_self : without mark (mark :: cs) = without mark cs :=
  List.filter_cons_of_neg (by simp)

private theorem without_eq_nil (h : ∀ c ∈ cs, c = mark) : without mark cs = [] := by
  apply List.filter_eq_nil_iff.2
  simpa using h

end Without

theorem not_mem_digits {ds : List Nat} (hds : ∀ d ∈ ds, d < 10) {c : Char}
    (hc : ∀ d < 10, c ≠ digitChar d) : c ∉ ds.map digitChar := by
  intro hmem
  obtain ⟨d, hd, rfl⟩ := exists_digit_of_mem hds hmem
  exact hc d hd rfl

theorem not_mem_natText (n : Nat) {c : Char} (hc : ∀ d < 10, c ≠ digitChar d) : c ∉ natText n :=
  not_mem_digits (fun _ hd => lt_of_mem_digitsOf hd) hc

theorem exists_digits_paddedText (w n : Nat) :
    ∃ ds : List Nat, paddedText w n = ds.map digitChar ∧ ∀ d ∈ ds, d < 10 := by
  refine ⟨List.replicate (w - (natText n).length) 0 ++ digitsOf n, ?_, ?_⟩
  · rw [List.map_append, List.map_replicate]
    rfl
  · intro d hd
    rcases List.mem_append.1 hd with hd | hd
    · rw [List.eq_of_mem_replicate hd]
      decide
    · exact lt_of_mem_digitsOf hd

private theorem not_mem_paddedText (w n : Nat) {c : Char} (hc : ∀ d < 10, c ≠ digitChar d) :
    c ∉ paddedText w n := by
  obtain ⟨ds, hds, hlt⟩ := exists_digits_paddedText w n
  rw [hds]
  exact not_mem_digits hlt hc

/-- A whole number with its digits in groups of three. -/
def grouped (mark : Char) (n : Nat) : List Char :=
  if n < 1000 then natText n else grouped mark (n / 1000) ++ mark :: paddedText 3 (n % 1000)
termination_by n
decreasing_by omega

section Grouped

variable {mark : Char} {n : Nat}

theorem grouped_of_lt (h : n < 1000) : grouped mark n = natText n := by
  rw [grouped, if_pos h]

theorem grouped_of_le (h : 1000 ≤ n) :
    grouped mark n = grouped mark (n / 1000) ++ mark :: paddedText 3 (n % 1000) := by
  rw [grouped, if_neg (by omega)]

theorem mem_grouped_iff (hmark : ∀ d < 10, mark ≠ digitChar d) :
    mark ∈ grouped mark n ↔ 1000 ≤ n := by
  by_cases h : n < 1000
  · rw [grouped_of_lt h]
    exact iff_of_false (not_mem_natText n hmark) (by omega)
  · rw [grouped_of_le (by omega)]
    exact iff_of_true (by simp) (by omega)

/-- Two groups behind the first one are parted by two marks. -/
theorem one_lt_count_grouped (hmark : ∀ d < 10, mark ≠ digitChar d) (h : 10 ^ 6 ≤ n) :
    1 < (grouped mark n).count mark := by
  have hfront : 0 < (grouped mark (n / 1000)).count mark :=
    List.count_pos_iff.2 ((mem_grouped_iff hmark).2 (by omega))
  rw [grouped_of_le (by omega), List.count_append, List.count_cons_self]
  omega

private theorem mem_grouped {c : Char} (h : c ∈ grouped mark n) :
    c = mark ∨ ∃ d < 10, c = digitChar d := by
  fun_induction grouped mark n with
  | case1 n hn => exact .inr (exists_digit_of_mem_natText h)
  | case2 n hn ih =>
    obtain ⟨ds, hds, hlt⟩ := exists_digits_paddedText 3 (n % 1000)
    rw [hds] at h
    rcases List.mem_append.1 h with h | h
    · exact ih h
    · rcases List.mem_cons.1 h with h | h
      · exact .inl h
      · exact .inr (exists_digit_of_mem hlt h)

theorem not_mem_grouped {c : Char} (hc : ∀ d < 10, c ≠ digitChar d) (hne : c ≠ mark) :
    c ∉ grouped mark n := by
  intro h
  rcases mem_grouped h with h | ⟨d, hd, h⟩
  · exact hne h
  · exact hc d hd h

/-- Without the marks between its groups a number is written without groups. -/
theorem without_grouped (hmark : ∀ d < 10, mark ≠ digitChar d) :
    without mark (grouped mark n) = natText n := by
  fun_induction grouped mark n with
  | case1 n h => exact without_eq_self (not_mem_natText n hmark)
  | case2 n h ih =>
    have hsplit := Text.natText_eq_append 2 (n := n) (by omega)
    rw [without_append, ih, without_cons_self, without_eq_self (not_mem_paddedText 3 _ hmark)]
    exact hsplit.symm

end Grouped

def IsSpace (c : Char) : Prop := c = ' ' ∨ c = '\u00a0'

def withoutSpaces (cs : List Char) : List Char := without '\u00a0' (without ' ' cs)

theorem withoutSpaces_append (cs ds : List Char) :
    withoutSpaces (cs ++ ds) = withoutSpaces cs ++ withoutSpaces ds := by
  simp only [withoutSpaces, without_append]

theorem withoutSpaces_eq_self {cs : List Char} (h : ∀ c ∈ cs, isBlank c = false) :
    withoutSpaces cs = cs := by
  have hspace : ' ' ∉ cs := fun hmem => absurd (h _ hmem) (by decide)
  have hnoBreak : '\u00a0' ∉ cs := fun hmem => absurd (h _ hmem) (by decide)
  rw [withoutSpaces, without_eq_self hspace, without_eq_self hnoBreak]

private theorem withoutSpaces_eq_nil {cs : List Char} (h : ∀ c ∈ cs, IsSpace c) :
    withoutSpaces cs = [] := by
  apply without_eq_nil
  intro c hc
  obtain ⟨hmem, hne⟩ := List.mem_filter.1 hc
  exact (h c hmem).resolve_left (bne_iff_ne.1 hne)

theorem withoutSpaces_trim {cs : List Char} (h : ∀ c ∈ cs, isBlank c = true → IsSpace c) :
    withoutSpaces (Text.trim cs) = withoutSpaces cs := by
  obtain ⟨before, after, hcs, hb, ha⟩ := Text.exists_blanks_trim cs
  have hbefore : withoutSpaces before = [] := withoutSpaces_eq_nil fun c hc =>
    h c (by rw [hcs]; exact List.mem_append_left _ hc) (hb c hc)
  have hafter : withoutSpaces after = [] := withoutSpaces_eq_nil fun c hc =>
    h c (by rw [hcs]; exact List.mem_append_right _ (List.mem_append_right _ hc)) (ha c hc)
  calc withoutSpaces (Text.trim cs)
    _ = withoutSpaces (before ++ (Text.trim cs ++ after)) := by
        rw [withoutSpaces_append, withoutSpaces_append, hbefore, hafter, List.nil_append,
          List.append_nil]
    _ = withoutSpaces cs := by rw [← hcs]

theorem isBlank_of_digit {c : Char} (h : ∃ d < 10, c = digitChar d) : isBlank c = false := by
  obtain ⟨d, hd, rfl⟩ := h
  revert d
  decide

theorem isBlank_of_mem_signText {sign : Option Bool} :
    ∀ c ∈ signText sign, isBlank c = false := by
  intro c h
  rcases Number.mem_signText h with rfl | rfl <;> decide

theorem isBlank_of_mem_natText {k : Nat} : ∀ c ∈ natText k, isBlank c = false := by
  intro c h
  exact isBlank_of_digit (exists_digit_of_mem_natText h)

theorem eq_of_mem_grouped {mark c : Char} {k : Nat} (h : c ∈ grouped mark k)
    (hblank : isBlank c = true) : c = mark := by
  rcases mem_grouped h with h | h
  · exact h
  · rw [isBlank_of_digit h] at hblank
    cases hblank

theorem isBlank_of_mem_grouped {mark : Char} {k : Nat} (hmark : isBlank mark = false) :
    ∀ c ∈ grouped mark k, isBlank c = false := by
  intro c h
  rw [← Bool.not_eq_true]
  intro hblank
  rw [eq_of_mem_grouped h hblank, hmark] at hblank
  cases hblank

end Cuaderno.QuickEntry
