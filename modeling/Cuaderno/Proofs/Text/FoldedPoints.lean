import Cuaderno.Proofs.Text.CodePoints
import Cuaderno.Text.Fold
import Mathlib.Data.List.Basic

/-!
# Folding code points

A character is folded by its code point: the tables give its case folding, and the canonical
decomposition of that. No case folding folds further and no decomposition decomposes further, but
the two do not commute: the parts of a capital letter have to be case folded again, and U+0345,
which is written as a mark, folds to a letter. So the laws of `foldPoint` are laws of the tables.
They need a look at the entries where a case folding meets a decomposition (`casedDecompositions`);
everywhere else the two leave each other alone.
-/

namespace Cuaderno.Text

variable {n m : Nat} {image : List Nat}

/-- The code points with a case folding, each with what it folds to. -/
def caseEntries : List (Nat × List Nat) := caseRuns.flatMap Run.entries ++ caseExpansions

/-- The code points with a listed decomposition, each with its parts. -/
def decompositionEntries : List (Nat × List Nat) := decompositionPages.flatMap Prod.snd

def casedPoints : List Nat := caseEntries.map Prod.fst

def decomposedPoints : List Nat := decompositionEntries.map Prod.fst

def markPoints : List Nat := rangePoints markRanges

def isCased (n : Nat) : Bool := (pointSet casedPoints).testBit n

/-- Whether a code point is a Hangul syllable, whose decomposition is computed. -/
def isSyllable (n : Nat) : Bool := Nat.ble 0xAC00 n && Nat.ble n 0xD7A3

def jamo : List Nat := List.range' 0x1100 0x100

/-- What code points are case folded to. -/
def foldedPoints : List Nat := caseEntries.flatMap Prod.snd

def partPoints : List Nat := decompositionEntries.flatMap Prod.snd ++ jamo

theorem isCased_iff : isCased n = true ↔ n ∈ casedPoints := testBit_pointSet

theorem isSyllable_iff : isSyllable n = true ↔ 0xAC00 ≤ n ∧ n ≤ 0xD7A3 := by
  rw [isSyllable, Bool.and_eq_true, Nat.ble_eq, Nat.ble_eq]

private theorem mem_caseEntries (h : caseImage? n = some image) : (n, image) ∈ caseEntries := by
  rw [caseImage?] at h
  rw [caseEntries, List.mem_append]
  split at h
  · rename_i hrun
    cases h
    exact .inl (mem_of_imageOfRuns? hrun)
  · exact .inr (mem_of_imageOf? h)

theorem mem_foldedPoints (h : caseImage? n = some image) (hm : m ∈ image) : m ∈ foldedPoints :=
  List.mem_flatMap.2 ⟨_, mem_caseEntries h, hm⟩

private theorem caseImage?_eq_none (h : isCased n = false) : caseImage? n = none := by
  cases hn : caseImage? n with
  | none => rfl
  | some image =>
    rw [isCased_iff.2 (List.mem_map_of_mem (mem_caseEntries hn))] at h
    cases h

theorem decompositionOf?_of_isSyllable (h : isSyllable n = true) :
    decompositionOf? n = some (hangulJamo n) := by
  rw [decompositionOf?, if_pos (by simpa using isSyllable_iff.1 h)]

theorem mem_decompositionEntries (hsyllable : isSyllable n = false)
    (h : decompositionOf? n = some image) : (n, image) ∈ decompositionEntries := by
  rw [← Bool.not_eq_true, isSyllable_iff] at hsyllable
  rw [decompositionOf?, if_neg (by simpa using hsyllable)] at h
  split at h
  · rename_i page hpage
    obtain ⟨_, _, hpages, -⟩ := List.lookup_eq_some_iff.1 hpage
    refine List.mem_flatMap.2 ⟨(n / 256, page), ?_, mem_of_imageOf? h⟩
    rw [hpages]
    exact List.mem_append_right _ List.mem_cons_self
  · cases h

private theorem decompositionOf?_eq_none (hsyllable : isSyllable n = false)
    (h : n ∉ decomposedPoints) :
    decompositionOf? n = none := by
  cases hn : decompositionOf? n with
  | none => rfl
  | some image =>
    exact absurd (List.mem_map_of_mem (mem_decompositionEntries hsyllable hn)) h

theorem mem_jamo (hsyllable : isSyllable n = true) (h : m ∈ hangulJamo n) : m ∈ jamo := by
  rw [isSyllable_iff] at hsyllable
  rw [jamo, List.mem_range'_1]
  rw [hangulJamo] at h
  split at h
  · simp only [List.mem_cons, List.not_mem_nil, or_false] at h
    omega
  · simp only [List.cons_append, List.nil_append, List.mem_cons, List.not_mem_nil, or_false] at h
    omega

theorem mem_partPoints (h : decompositionOf? n = some image) (hm : m ∈ image) :
    m ∈ partPoints := by
  rw [partPoints, List.mem_append]
  cases hsyllable : isSyllable n with
  | true =>
    rw [decompositionOf?_of_isSyllable hsyllable, Option.some.injEq] at h
    exact .inr (mem_jamo hsyllable (h ▸ hm))
  | false => exact .inl (List.mem_flatMap.2 ⟨_, mem_decompositionEntries hsyllable h, hm⟩)

def caseFoldPoint (n : Nat) : List Nat := (caseImage? n).getD [n]

def decomposePoint (n : Nat) : List Nat := (decompositionOf? n).getD [n]

def foldPoint (n : Nat) : List Nat :=
  ((caseFoldPoint n).flatMap decomposePoint).filter (!within · markRanges)

theorem caseFoldPoint_eq_self (h : caseImage? n = none) : caseFoldPoint n = [n] := by
  rw [caseFoldPoint, h, Option.getD_none]

theorem decomposePoint_eq_self (h : decompositionOf? n = none) : decomposePoint n = [n] := by
  rw [decomposePoint, h, Option.getD_none]

theorem decomposePoint_eq (h : decompositionOf? n = some image) : decomposePoint n = image := by
  rw [decomposePoint, h, Option.getD_some]

private theorem foldPoint_of_uncased (h : caseImage? n = none) :
    foldPoint n = (decomposePoint n).filter (!within · markRanges) := by
  rw [foldPoint, caseFoldPoint_eq_self h, List.flatMap_singleton]

/-- `caseFoldPoint` in a form for evaluation, with no look-up but of cased code points. -/
noncomputable def soughtCaseFold (n : Nat) : List Nat :=
  bif isCased n then
    match seekRun n caseRuns with
    | some m => [m]
    | none => (seekImage n caseExpansions).getD [n]
  else [n]

/-- `decomposePoint` in a form for evaluation. -/
noncomputable def soughtDecomposition (n : Nat) : List Nat :=
  bif isSyllable n then hangulJamo n
  else bif (pointSet decomposedPoints).testBit n then
    match decompositionPages.lookup (n / 256) with
    | some page => (seekImage n page).getD [n]
    | none => [n]
  else [n]

/-- `foldPoint` in a form for evaluation. -/
noncomputable def soughtFold (n : Nat) : List Nat :=
  ((soughtCaseFold n).flatMap soughtDecomposition).filter (!within · markRanges)

private theorem soughtCaseFold_eq (n : Nat) : soughtCaseFold n = caseFoldPoint n := by
  rw [soughtCaseFold, caseFoldPoint]
  cases hcased : isCased n with
  | false => rw [caseImage?_eq_none hcased, cond_false, Option.getD_none]
  | true =>
    rw [cond_true, seekRun_eq, seekImage_eq, caseImage?]
    cases imageOfRuns? n caseRuns <;> rfl

private theorem soughtDecomposition_eq (n : Nat) : soughtDecomposition n = decomposePoint n := by
  rw [soughtDecomposition, decomposePoint]
  cases hsyllable : isSyllable n with
  | true => rw [decompositionOf?_of_isSyllable hsyllable, cond_true, Option.getD_some]
  | false =>
    cases hlisted : (pointSet decomposedPoints).testBit n with
    | false =>
      have hn : n ∉ decomposedPoints := by
        rw [← testBit_pointSet, hlisted]
        exact Bool.false_ne_true
      rw [decompositionOf?_eq_none hsyllable hn, cond_false, cond_false, Option.getD_none]
    | true =>
      rw [← Bool.not_eq_true, isSyllable_iff] at hsyllable
      rw [cond_false, cond_true, decompositionOf?, if_neg (by simpa using hsyllable)]
      cases decompositionPages.lookup (n / 256) with
      | none => rfl
      | some page => exact congrArg (·.getD [n]) (seekImage_eq n page)

private theorem soughtFold_eq : soughtFold = foldPoint := by
  funext n
  have hdecomposition : soughtDecomposition = decomposePoint := funext soughtDecomposition_eq
  rw [soughtFold, foldPoint, soughtCaseFold_eq, hdecomposition]

/-- The decompositions that case folding has to do with: of cased code points, or with cased
parts. -/
def casedDecompositions : List (Nat × List Nat) :=
  decompositionEntries.filter fun e => isCased e.1 || e.2.any isCased

/-- What the tables say, checked entry by entry. -/
structure TableLaws : Prop where
  /-- What a code point folds to is not cased. -/
  caseImages : pointSet foldedPoints &&& pointSet casedPoints = 0
  /-- Parts have no parts. -/
  parts : pointSet partPoints &&& pointSet decomposedPoints = 0
  jamo : pointSet jamo &&& pointSet casedPoints = 0
  syllables : casedPoints.all (!isSyllable ·) = true
  /-- All images are code points of characters, and none is a syllable. -/
  images : ((foldedPoints ++ partPoints).all fun m =>
    Nat.ble m 0xABFF || (Nat.ble 0xE000 m && Nat.ble m 0x10FFFF)) = true
  /-- Only the parts of a cased code point are cased, and it folds like its parts. -/
  casedDecompositions : (casedDecompositions.all fun e =>
    !(soughtCaseFold e.1).isEqv [e.1] Nat.beq &&
      (e.2.flatMap soughtFold).isEqv (soughtFold e.1) Nat.beq) = true
  /-- No mark is cased but U+0345. -/
  marks : markPoints.all (fun m => !isSyllable m && (Nat.beq m 0x345 || !isCased m)) = true
  /-- All parts of a mark are marks. -/
  markDecompositions : (decompositionEntries.all fun e =>
    !(pointSet markPoints).testBit e.1 || e.2.all (within · markRanges)) = true

-- This is passed on as an argument below: a name such as `tableLaws.parts` would be looked up first
-- and so wait for the evaluation.
private theorem tableLaws : TableLaws where
  caseImages := by decide +kernel
  parts := by decide +kernel
  jamo := by decide +kernel
  syllables := by decide +kernel
  images := by decide +kernel
  casedDecompositions := by decide +kernel
  marks := by decide +kernel
  markDecompositions := by decide +kernel

private theorem isEqv_beq {xs ys : List Nat} : xs.isEqv ys Nat.beq = true ↔ xs = ys := by
  have hbeq : Nat.beq = fun a b => a == b := by
    funext a b
    rw [Bool.eq_iff_iff, Nat.beq_eq, beq_iff_eq]
  rw [hbeq, List.isEqv_eq]

theorem bounds_of_mem (h : m ∈ foldedPoints ++ partPoints) :
    m < 0xAC00 ∨ 0xE000 ≤ m ∧ m < 0x110000 := by
  have himage := List.all_eq_true.1 (TableLaws.images tableLaws) m h
  simp only [Bool.or_eq_true, Bool.and_eq_true, Nat.ble_eq] at himage
  omega

theorem caseImage?_of_mem_caseFoldPoint (h : m ∈ caseFoldPoint n) : caseImage? m = none := by
  cases hn : caseImage? n with
  | none =>
    rw [caseFoldPoint_eq_self hn, List.mem_singleton] at h
    rwa [h]
  | some image =>
    rw [caseFoldPoint, hn, Option.getD_some] at h
    have hcased := not_mem_of_disjoint (TableLaws.caseImages tableLaws) (mem_foldedPoints hn h)
    rw [← isCased_iff, Bool.not_eq_true] at hcased
    exact caseImage?_eq_none hcased

private theorem decompositionOf?_of_mem_decomposePoint (h : m ∈ decomposePoint n) :
    decompositionOf? m = none := by
  cases hn : decompositionOf? n with
  | none =>
    rw [decomposePoint_eq_self hn, List.mem_singleton] at h
    rwa [h]
  | some image =>
    rw [decomposePoint_eq hn] at h
    have hpart : m ∈ partPoints := mem_partPoints hn h
    have hsyllable : isSyllable m = false := by
      have hbounds := bounds_of_mem (List.mem_append_right _ hpart)
      rw [← Bool.not_eq_true, isSyllable_iff]
      omega
    exact decompositionOf?_eq_none hsyllable
      (not_mem_of_disjoint (TableLaws.parts tableLaws) hpart)

/-- Where case folding has to do with a decomposition, the entry is among those looked at. -/
theorem uncased_or_mem_casedDecompositions (h : decompositionOf? n = some image) :
    (caseImage? n = none ∧ ∀ m ∈ image, caseImage? m = none) ∨
      (n, image) ∈ casedDecompositions := by
  cases hsyllable : isSyllable n with
  | true =>
    rw [decompositionOf?_of_isSyllable hsyllable, Option.some.injEq] at h
    refine .inl ⟨caseImage?_eq_none ?_, fun m hm => caseImage?_eq_none ?_⟩
    · rw [← Bool.not_eq_true, isCased_iff]
      intro hn
      have hnot := List.all_eq_true.1 (TableLaws.syllables tableLaws) n hn
      rw [hsyllable] at hnot
      cases hnot
    · rw [← Bool.not_eq_true, isCased_iff]
      exact not_mem_of_disjoint (TableLaws.jamo tableLaws) (mem_jamo hsyllable (h ▸ hm))
  | false =>
    have he := mem_decompositionEntries hsyllable h
    by_cases hcased : (isCased n || image.any isCased) = true
    · exact .inr (List.mem_filter.2 ⟨he, hcased⟩)
    · rw [Bool.not_eq_true, Bool.or_eq_false_iff, List.any_eq_false] at hcased
      exact .inl ⟨caseImage?_eq_none hcased.1,
        fun m hm => caseImage?_eq_none (Bool.not_eq_true _ ▸ hcased.2 m hm)⟩

private theorem of_mem_casedDecompositions (h : (n, image) ∈ casedDecompositions) :
    caseImage? n ≠ none ∧ image.flatMap foldPoint = foldPoint n := by
  have hall := List.all_eq_true.1 (TableLaws.casedDecompositions tableLaws) _ h
  rw [soughtFold_eq, soughtCaseFold_eq, Bool.and_eq_true, Bool.not_eq_true', isEqv_beq,
    ← Bool.not_eq_true, isEqv_beq] at hall
  exact ⟨fun hnone => hall.1 (caseFoldPoint_eq_self hnone), hall.2⟩

theorem caseImage?_of_mem_decomposePoint (hn : caseImage? n = none) (h : m ∈ decomposePoint n) :
    caseImage? m = none := by
  cases hparts : decompositionOf? n with
  | none =>
    rw [decomposePoint_eq_self hparts, List.mem_singleton] at h
    rwa [h]
  | some image =>
    rw [decomposePoint_eq hparts] at h
    rcases uncased_or_mem_casedDecompositions hparts with ⟨-, huncased⟩ | hcased
    · exact huncased m h
    · exact absurd hn (of_mem_casedDecompositions hcased).1

theorem flatMap_foldPoint_caseFoldPoint (n : Nat) :
    (caseFoldPoint n).flatMap foldPoint = foldPoint n := by
  have hfold : ∀ m ∈ caseFoldPoint n,
      foldPoint m = (decomposePoint m).filter (!within · markRanges) :=
    fun m hm => foldPoint_of_uncased (caseImage?_of_mem_caseFoldPoint hm)
  rw [List.flatMap_congr hfold, foldPoint, List.filter_flatMap]

theorem flatMap_foldPoint_decomposePoint (n : Nat) :
    (decomposePoint n).flatMap foldPoint = foldPoint n := by
  cases hn : caseImage? n with
  | none =>
    have hfold : ∀ m ∈ decomposePoint n, foldPoint m = [m].filter (!within · markRanges) := by
      intro m hm
      rw [foldPoint_of_uncased (caseImage?_of_mem_decomposePoint hn hm),
        decomposePoint_eq_self (decompositionOf?_of_mem_decomposePoint hm)]
    rw [List.flatMap_congr hfold, foldPoint_of_uncased hn, ← List.filter_flatMap,
      List.flatMap_singleton']
  | some _ =>
    cases hparts : decompositionOf? n with
    | none => rw [decomposePoint_eq_self hparts, List.flatMap_singleton]
    | some image =>
      rcases uncased_or_mem_casedDecompositions hparts with ⟨hnone, -⟩ | hcased
      · rw [hn] at hnone
        cases hnone
      · rw [decomposePoint_eq hparts, (of_mem_casedDecompositions hcased).2]

/-- A folded form is folded. -/
theorem foldPoint_of_mem_foldPoint (h : m ∈ foldPoint n) : foldPoint m = [m] := by
  obtain ⟨hm, hmark⟩ := List.mem_filter.1 h
  obtain ⟨k, hk, hmk⟩ := List.mem_flatMap.1 hm
  have huncased : caseImage? m = none :=
    caseImage?_of_mem_decomposePoint (caseImage?_of_mem_caseFoldPoint hk) hmk
  rw [foldPoint_of_uncased huncased,
    decomposePoint_eq_self (decompositionOf?_of_mem_decomposePoint hmk)]
  exact List.filter_cons_of_pos hmark

/-- Every mark folds to nothing, but for U+0345. -/
theorem foldPoint_of_mark (hmark : within n markRanges = true) (hn : n ≠ 0x345) :
    foldPoint n = [] := by
  have hpoint : n ∈ markPoints := mem_of_within hmark
  have hall := List.all_eq_true.1 (TableLaws.marks tableLaws) n hpoint
  simp only [Bool.and_eq_true, Bool.or_eq_true, Nat.beq_eq, hn, false_or, Bool.not_eq_true'] at hall
  rw [foldPoint_of_uncased (caseImage?_eq_none hall.2), List.filter_eq_nil_iff]
  intro m hm
  cases hparts : decompositionOf? n with
  | none =>
    rw [decomposePoint_eq_self hparts, List.mem_singleton] at hm
    rw [hm, hmark]
    exact Bool.false_ne_true
  | some image =>
    rw [decomposePoint_eq hparts] at hm
    have hentry := List.all_eq_true.1 (TableLaws.markDecompositions tableLaws) _
      (mem_decompositionEntries hall.1 hparts)
    rw [testBit_pointSet.2 hpoint, Bool.not_true, Bool.false_or, List.all_eq_true] at hentry
    rw [hentry m hm]
    exact Bool.false_ne_true

end Cuaderno.Text
