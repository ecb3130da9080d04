import Cuaderno.Text.Table
import Mathlib.Data.Nat.Bitwise

/-!
# Sets of code points

A look-up in a table finds an entry of the table, so what holds of all entries holds of what is
found. Such facts compare sets of code points with each other: whether the images of one table are
the keys of another, or lie in a class. A set is written as one number, with a bit for each member
(`pointSet`), so that two sets are compared at once (`not_mem_of_disjoint`).

Where entries have to be looked up elsewhere, the look-ups are evaluated in the forms `seekRun` and
`seekImage`, which do nothing but compare numbers.
-/

namespace Cuaderno.Text

/-- A set of code points as one number, with a bit for each member. -/
def pointSet : List Nat → Nat
  | [] => 0
  | n :: points => 1 <<< n ||| pointSet points

theorem testBit_pointSet {points : List Nat} {n : Nat} :
    (pointSet points).testBit n = true ↔ n ∈ points := by
  induction points with
  | nil => simp [pointSet]
  | cons m points ih =>
    rw [pointSet, Nat.testBit_or, Nat.one_shiftLeft, Nat.testBit_two_pow, Bool.or_eq_true, ih,
      List.mem_cons, decide_eq_true_eq, eq_comm]

/-- Two sets without a common bit have no common member. -/
theorem not_mem_of_disjoint {points others : List Nat}
    (h : pointSet points &&& pointSet others = 0) {n : Nat} (hn : n ∈ points) : n ∉ others := by
  intro hother
  have hbit := congrArg (·.testBit n) h
  simp only [Nat.testBit_and, testBit_pointSet.2 hn, testBit_pointSet.2 hother] at hbit
  simp at hbit

/-- The code points that a run moves, each with its image. -/
def Run.entries (r : Run) : List (Nat × List Nat) :=
  (List.range ((r.last - r.first) / r.step + 1)).map fun i =>
    (r.first + i * r.step, [((r.first + i * r.step : Nat) + r.shift).toNat])

private theorem Run.mem_entries {r : Run} {n : Nat} (h : r.holds n = true) :
    (n, [(n + r.shift).toNat]) ∈ r.entries := by
  simp only [holds, Bool.and_eq_true, decide_eq_true_eq, beq_iff_eq] at h
  obtain ⟨⟨hfirst, hlast⟩, hstep⟩ := h
  have hindex : r.first + (n - r.first) / r.step * r.step = n := by
    rw [Nat.div_mul_cancel (Nat.dvd_of_mod_eq_zero hstep)]
    omega
  refine List.mem_map.2 ⟨(n - r.first) / r.step, ?_, by rw [hindex]⟩
  rw [List.mem_range, Nat.lt_succ_iff]
  exact Nat.div_le_div_right (by omega)

theorem mem_of_imageOfRuns? {runs : List Run} {n m : Nat} (h : imageOfRuns? n runs = some m) :
    (n, [m]) ∈ runs.flatMap Run.entries := by
  induction runs with
  | nil => cases h
  | cons r runs ih =>
    rw [imageOfRuns?] at h
    rw [List.flatMap_cons, List.mem_append]
    split at h
    · cases h
    · split at h
      · rename_i hholds
        cases h
        exact .inl (Run.mem_entries hholds)
      · exact .inr (ih h)

theorem mem_of_imageOf? {α : Type} {table : List (Nat × α)} {n : Nat} {image : α}
    (h : imageOf? n table = some image) : (n, image) ∈ table := by
  induction table with
  | nil => cases h
  | cons e table ih =>
    rw [imageOf?] at h
    split at h
    · cases h
    · split at h
      · rename_i hkey
        cases h
        rw [hkey]
        exact List.mem_cons_self
      · exact List.mem_cons_of_mem _ (ih h)

def rangePoints (ranges : List (Nat × Nat)) : List Nat :=
  ranges.flatMap fun r => List.range' r.1 (r.2 + 1 - r.1)

theorem mem_of_within {ranges : List (Nat × Nat)} {n : Nat} (h : within n ranges = true) :
    n ∈ rangePoints ranges := by
  induction ranges with
  | nil => cases h
  | cons r ranges ih =>
    rw [within] at h
    rw [rangePoints, List.flatMap_cons, List.mem_append]
    split at h
    · cases h
    · rcases Bool.or_eq_true_iff.1 h with hlast | hrest
      · rw [decide_eq_true_eq] at hlast
        exact .inl (List.mem_range'_1.2 (by omega))
      · exact .inr (ih hrest)

/-- `imageOfRuns?` in a form for evaluation. -/
noncomputable def seekRun (n : Nat) (runs : List Run) : Option Nat :=
  List.rec none (fun r _ rest =>
    Bool.rec none
      (Bool.rec rest (Bool.rec rest (some (n + r.shift).toNat) (r.holds n)) (Nat.ble n r.last))
      (Nat.ble r.first n)) runs

/-- `imageOf?` in a form for evaluation. -/
noncomputable def seekImage {α : Type} (n : Nat) (table : List (Nat × α)) : Option α :=
  List.rec none (fun e _ rest =>
    Bool.rec rest (Bool.rec none (some e.2) (Nat.beq n e.1)) (Nat.ble n e.1)) table

private theorem ble_eq_false {n m : Nat} (h : m < n) : Nat.ble n m = false := by
  rw [← Bool.not_eq_true, Nat.ble_eq]
  omega

theorem seekRun_eq (n : Nat) (runs : List Run) : seekRun n runs = imageOfRuns? n runs := by
  induction runs with
  | nil => rfl
  | cons r runs ih =>
    rw [imageOfRuns?, ← ih]
    by_cases hfirst : n < r.first
    · rw [if_pos hfirst]
      simp only [seekRun, ble_eq_false hfirst]
    · rw [if_neg hfirst]
      have hble : Nat.ble r.first n = true := Nat.ble_eq_true_of_le (Nat.not_lt.1 hfirst)
      cases hholds : r.holds n with
      | false => cases hlast : Nat.ble n r.last <;> simp [seekRun, hble, hholds, hlast]
      | true =>
        have hlast : n ≤ r.last := by
          simp only [Run.holds, Bool.and_eq_true, decide_eq_true_eq] at hholds
          exact hholds.1.2
        simp [seekRun, hble, hholds, Nat.ble_eq_true_of_le hlast]

theorem seekImage_eq {α : Type} (n : Nat) (table : List (Nat × α)) :
    seekImage n table = imageOf? n table := by
  induction table with
  | nil => rfl
  | cons e table ih =>
    rw [imageOf?, ← ih]
    rcases Nat.lt_trichotomy n e.1 with hlt | heq | hgt
    · have hbeq : Nat.beq n e.1 = false := by
        rw [← Bool.not_eq_true, Nat.beq_eq]
        omega
      rw [if_pos hlt]
      simp only [seekImage, Nat.ble_eq_true_of_le (Nat.le_of_lt hlt), hbeq]
    · rw [if_neg (by omega), if_pos heq]
      simp only [seekImage, heq, Nat.ble_eq_true_of_le (Nat.le_refl e.1), Nat.beq_refl]
    · rw [if_neg (by omega), if_neg (by omega)]
      simp only [seekImage, ble_eq_false hgt]

end Cuaderno.Text
