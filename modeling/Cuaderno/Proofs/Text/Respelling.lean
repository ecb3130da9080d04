import Cuaderno.Proofs.Text.FoldedPoints
import Cuaderno.Proofs.Text.Folding
import Mathlib.Logic.Relation

/-!
# One key for every spelling

A text can be spelt in several ways: a letter and its accents may be one character or several, a
letter may be large or small, and a combining mark may stand or be missing. `Respells` says how two
spellings differ in one place. Each such step leaves the folded form as it is, so all spellings of a
text share one key (`key_canonical`). The folded form is itself a spelling of the text, so that
texts with the same folded form are spellings of each other (`foldChars_eq_iff`).
-/

namespace Cuaderno.Text

private theorem toNat_ofNat {n : Nat} (h : n.isValidChar) : (Char.ofNat n).toNat = n := by
  rw [Char.ofNat, dif_pos h]
  rfl

/-- What a table gives for a code point are the code points of characters. -/
theorem map_toNat_map_ofNat {image : List Nat} (h : ∀ m ∈ image, m ∈ foldedPoints ++ partPoints) :
    (image.map Char.ofNat).map Char.toNat = image := by
  have hself : ∀ m ∈ image, (Char.toNat ∘ Char.ofNat) m = m := by
    intro m hm
    have hbounds := bounds_of_mem (h m hm)
    exact toNat_ofNat (by rw [Nat.isValidChar]; omega)
  rw [List.map_map, List.map_congr_left hself, List.map_id']

private theorem map_toNat_caseFold (c : Char) :
    (caseFold c).map Char.toNat = caseFoldPoint c.toNat := by
  rw [caseFold, caseFoldPoint]
  cases hc : caseImage? c.toNat with
  | none => rfl
  | some image =>
    exact map_toNat_map_ofNat fun m hm => List.mem_append_left _ (mem_foldedPoints hc hm)

private theorem map_toNat_decompose (c : Char) :
    (decompose c).map Char.toNat = decomposePoint c.toNat := by
  rw [decompose, decomposePoint]
  cases hc : decompositionOf? c.toNat with
  | none => rfl
  | some image =>
    exact map_toNat_map_ofNat fun m hm => List.mem_append_right _ (mem_partPoints hc hm)

private theorem map_toNat_foldChar (c : Char) :
    (foldChar c).map Char.toNat = foldPoint c.toNat := by
  have hparts : (caseFoldPoint c.toNat).flatMap decomposePoint =
      ((caseFold c).flatMap decompose).map Char.toNat := by
    rw [← map_toNat_caseFold, List.flatMap_map, List.map_flatMap]
    exact List.flatMap_congr fun d _ => (map_toNat_decompose d).symm
  rw [foldPoint, hparts, List.filter_map]
  rfl

private theorem map_toNat_foldChars (cs : List Char) :
    (foldChars cs).map Char.toNat = (cs.map Char.toNat).flatMap foldPoint := by
  rw [foldChars, List.map_flatMap, List.flatMap_map]
  exact List.flatMap_congr fun c _ => map_toNat_foldChar c

private theorem eq_of_map_toNat {cs ds : List Char} (h : cs.map Char.toNat = ds.map Char.toNat) :
    cs = ds := List.map_injective_iff.2 (fun _ _ => Char.toNat_inj.1) h

/-- Decomposing a character first does not change its folded form. -/
theorem foldChars_decompose (c : Char) : foldChars (decompose c) = foldChar c := by
  apply eq_of_map_toNat
  rw [map_toNat_foldChars, map_toNat_decompose, flatMap_foldPoint_decomposePoint,
    map_toNat_foldChar]

/-- Case folding a character first does not change its folded form. -/
theorem foldChars_caseFold (c : Char) : foldChars (caseFold c) = foldChar c := by
  apply eq_of_map_toNat
  rw [map_toNat_foldChars, map_toNat_caseFold, flatMap_foldPoint_caseFoldPoint, map_toNat_foldChar]

/-- A mark folds to nothing, but for U+0345, which folds to a letter. -/
theorem foldChar_mark {c : Char} (hmark : isMark c = true) (hc : c ≠ '\u0345') :
    foldChar c = [] := by
  have hn : c.toNat ≠ 0x345 := fun h => hc (Char.toNat_inj.1 h)
  have hfold := foldPoint_of_mark hmark hn
  rw [← map_toNat_foldChar, List.map_eq_nil_iff] at hfold
  exact hfold

private theorem foldChar_of_mem_foldChar {c d : Char} (h : d ∈ foldChar c) : foldChar d = [d] := by
  apply eq_of_map_toNat
  have hd : d.toNat ∈ foldPoint c.toNat := by
    rw [← map_toNat_foldChar]
    exact List.mem_map_of_mem h
  rw [map_toNat_foldChar, foldPoint_of_mem_foldPoint hd, List.map_singleton]

/-- A folded form is folded. -/
theorem foldChars_foldChars (cs : List Char) : foldChars (foldChars cs) = foldChars cs := by
  have hself : ∀ d ∈ foldChars cs, foldChar d = [d] := by
    intro d hd
    obtain ⟨c, -, hdc⟩ := List.mem_flatMap.1 hd
    exact foldChar_of_mem_foldChar hdc
  rw [foldChars, List.flatMap_congr hself, List.flatMap_singleton']

private theorem fold_fold (cs : List Char) : fold (fold cs) = fold cs := by
  calc fold (fold cs)
    _ = fold (foldChars cs) := fold_trim _
    _ = fold cs := congrArg trim (foldChars_foldChars cs)

def blankPoints : List Nat := blanks.map Char.toNat

/-- The parts of all code points that are not blank. -/
def unblankParts : List Nat :=
  (decompositionEntries.filter fun e => !(pointSet blankPoints).testBit e.1).flatMap Prod.snd ++
    jamo

private theorem not_blank_of_mem_foldedPoints {n : Nat} (h : n ∈ foldedPoints) : n ∉ blankPoints :=
  not_mem_of_disjoint (by decide +kernel) h

private theorem not_blank_of_mem_unblankParts {n : Nat} (h : n ∈ unblankParts) : n ∉ blankPoints :=
  not_mem_of_disjoint (by decide +kernel) h

private theorem toNat_mem_blankPoints {c : Char} : c.toNat ∈ blankPoints ↔ isBlank c = true := by
  constructor
  · intro h
    obtain ⟨d, hd, heq⟩ := List.mem_map.1 h
    have hall : blanks.all isBlank = true := by decide
    rw [← Char.toNat_inj.1 heq]
    exact List.all_eq_true.1 hall d hd
  · intro h
    exact List.mem_map_of_mem (mem_blanks h)

private theorem blank_of_mem_caseFoldPoint {n m : Nat} (h : m ∈ caseFoldPoint n)
    (hm : m ∈ blankPoints) :
    n ∈ blankPoints := by
  cases hn : caseImage? n with
  | none =>
    rw [caseFoldPoint_eq_self hn, List.mem_singleton] at h
    rwa [← h]
  | some image =>
    rw [caseFoldPoint, hn, Option.getD_some] at h
    exact absurd hm (not_blank_of_mem_foldedPoints (mem_foldedPoints hn h))

private theorem blank_of_mem_decomposePoint {n m : Nat} (h : m ∈ decomposePoint n)
    (hm : m ∈ blankPoints) : n ∈ blankPoints := by
  cases hn : decompositionOf? n with
  | none =>
    rw [decomposePoint_eq_self hn, List.mem_singleton] at h
    rwa [← h]
  | some image =>
    rw [decomposePoint_eq hn] at h
    by_contra hblank
    refine not_blank_of_mem_unblankParts (List.mem_append.2 ?_) hm
    cases hsyllable : isSyllable n with
    | true =>
      rw [decompositionOf?_of_isSyllable hsyllable, Option.some.injEq] at hn
      exact .inr (mem_jamo hsyllable (hn ▸ h))
    | false =>
      refine .inl (List.mem_flatMap.2 ⟨(n, image), List.mem_filter.2 ⟨?_, ?_⟩, h⟩)
      · exact mem_decompositionEntries hsyllable hn
      · rw [Bool.not_eq_true', ← Bool.not_eq_true, testBit_pointSet]
        exact hblank

/-- Only a blank has a blank in its folded form. -/
theorem isBlank_of_mem_foldChar {c d : Char} (h : d ∈ foldChar c) (hd : isBlank d = true) :
    isBlank c = true := by
  have hpoint : d.toNat ∈ foldPoint c.toNat := by
    rw [← map_toNat_foldChar]
    exact List.mem_map_of_mem h
  obtain ⟨m, hm, hpart⟩ := List.mem_flatMap.1 (List.mem_filter.1 hpoint).1
  rw [← toNat_mem_blankPoints] at hd ⊢
  exact blank_of_mem_caseFoldPoint hm (blank_of_mem_decomposePoint hpart hd)

/-- Two spellings of a text that differ in one place: there stands one mark more, or a character is
written as its parts, or as what it is case folded to. -/
inductive Respells : List Char → List Char → Prop
  | marked (before : List Char) {c : Char} (hmark : isMark c = true) (hc : c ≠ '\u0345')
      (after : List Char) : Respells (before ++ after) (before ++ c :: after)
  | decomposed (before : List Char) (c : Char) (after : List Char) :
      Respells (before ++ c :: after) (before ++ (decompose c ++ after))
  | caseFolded (before : List Char) (c : Char) (after : List Char) :
      Respells (before ++ c :: after) (before ++ (caseFold c ++ after))

variable {cs ds : List Char}

theorem Respells.foldChars_eq (h : Respells cs ds) : foldChars cs = foldChars ds := by
  cases h with
  | marked before hmark hc after =>
    rw [foldChars_append, foldChars_append, foldChars_cons, foldChar_mark hmark hc, List.nil_append]
  | decomposed before c after =>
    rw [foldChars_append, foldChars_append, foldChars_cons, foldChars_append, foldChars_decompose]
  | caseFolded before c after =>
    rw [foldChars_append, foldChars_append, foldChars_cons, foldChars_append, foldChars_caseFold]

/-- Any number of changes, made or taken back, leaves the folded form as it is. -/
theorem foldChars_eq_of_eqvGen (h : Relation.EqvGen Respells cs ds) :
    foldChars cs = foldChars ds := by
  induction h with
  | rel _ _ hstep => exact hstep.foldChars_eq
  | refl _ => rfl
  | symm _ _ _ ih => exact ih.symm
  | trans _ _ _ _ _ ih₁ ih₂ => exact ih₁.trans ih₂

theorem Respells.context (h : Respells cs ds) (front back : List Char) :
    Respells (front ++ (cs ++ back)) (front ++ (ds ++ back)) := by
  cases h with
  | marked before hmark hc after =>
    simpa using Respells.marked (front ++ before) hmark hc (after ++ back)
  | decomposed before c after =>
    simpa using Respells.decomposed (front ++ before) c (after ++ back)
  | caseFolded before c after =>
    simpa using Respells.caseFolded (front ++ before) c (after ++ back)

private theorem eqvGen_context (h : Relation.EqvGen Respells cs ds) (front back : List Char) :
    Relation.EqvGen Respells (front ++ (cs ++ back)) (front ++ (ds ++ back)) := by
  induction h with
  | rel _ _ hstep => exact .rel _ _ (hstep.context front back)
  | refl _ => exact .refl _
  | symm _ _ _ ih => exact ih.symm
  | trans _ _ _ _ _ ih₁ ih₂ => exact ih₁.trans _ _ _ ih₂

private theorem eqvGen_append {es fs : List Char} (h : Relation.EqvGen Respells cs ds)
    (h' : Relation.EqvGen Respells es fs) : Relation.EqvGen Respells (cs ++ es) (ds ++ fs) := by
  have hfront : Relation.EqvGen Respells (cs ++ es) (ds ++ es) := by
    simpa using eqvGen_context h [] es
  have hback : Relation.EqvGen Respells (ds ++ es) (ds ++ fs) := by
    simpa using eqvGen_context h' ds []
  exact hfront.trans _ _ _ hback

private theorem eqvGen_flatMap {f : Char → List Char} (h : ∀ c, Relation.EqvGen Respells [c] (f c))
    (cs : List Char) : Relation.EqvGen Respells cs (cs.flatMap f) := by
  induction cs with
  | nil => exact .refl _
  | cons c cs ih => exact eqvGen_append (h c) ih

private theorem eqvGen_filter (h : '\u0345' ∉ cs) :
    Relation.EqvGen Respells cs (cs.filter (!isMark ·)) := by
  induction cs with
  | nil => exact .refl _
  | cons c cs ih =>
    rw [List.mem_cons, not_or] at h
    cases hmark : isMark c with
    | false =>
      rw [List.filter_cons_of_pos (by simp [hmark])]
      exact eqvGen_append (.refl [c]) (ih h.2)
    | true =>
      rw [List.filter_cons_of_neg (by simp [hmark])]
      have hstep : Respells cs (c :: cs) := Respells.marked [] hmark (Ne.symm h.1) cs
      exact ((Relation.EqvGen.rel _ _ hstep).symm).trans _ _ _ (ih h.2)

private theorem eqvGen_foldChar (c : Char) : Relation.EqvGen Respells [c] (foldChar c) := by
  have hcase : Relation.EqvGen Respells [c] (caseFold c) :=
    .rel _ _ (by simpa using Respells.caseFolded [] c [])
  have hparts : Relation.EqvGen Respells (caseFold c) ((caseFold c).flatMap decompose) :=
    eqvGen_flatMap (fun d => .rel _ _ (by simpa using Respells.decomposed [] d [])) _
  have hsubscript : '\u0345' ∉ (caseFold c).flatMap decompose := by
    rw [List.mem_flatMap]
    rintro ⟨d, hd, hmem⟩
    have hpoint : d.toNat ∈ caseFoldPoint c.toNat := by
      rw [← map_toNat_caseFold]
      exact List.mem_map_of_mem hd
    have hpart : 0x345 ∈ decomposePoint d.toNat := by
      rw [← map_toNat_decompose]
      exact List.mem_map_of_mem hmem
    have hcased : caseImage? 0x345 ≠ none := by decide +kernel
    exact hcased (caseImage?_of_mem_decomposePoint (caseImage?_of_mem_caseFoldPoint hpoint) hpart)
  exact hcase.trans _ _ _ (hparts.trans _ _ _ (eqvGen_filter hsubscript))

/-- Two texts have the same folded form exactly when they are spellings of each other. -/
theorem foldChars_eq_iff : foldChars cs = foldChars ds ↔ Relation.EqvGen Respells cs ds := by
  constructor
  · intro h
    have hcs := eqvGen_flatMap eqvGen_foldChar cs
    have hds := eqvGen_flatMap eqvGen_foldChar ds
    rw [← foldChars, h] at hcs
    exact hcs.trans _ _ _ hds.symm
  · exact foldChars_eq_of_eqvGen

/-- The key of a text is its own key, and all spellings of the text share it. -/
theorem key_canonical (s : String) :
    key (key s) = key s ∧
      ∀ t : String, Relation.EqvGen Respells s.toList t.toList → key t = key s := by
  constructor
  · rw [key, toList_key, fold_fold, key]
  · intro t ht
    rw [key, key, fold, fold, foldChars_eq_iff.2 ht]

/-- A capital letter with its tilde has the key of the plain small letter. -/
theorem key_canonical_tilde : key "n" = key "Ñ" := by
  have hfold : caseFold 'Ñ' = ['ñ'] := by decide
  have hparts : decompose 'ñ' = ['n', '\u0303'] := by decide
  have hcase : Respells ['Ñ'] ['ñ'] := by simpa [hfold] using Respells.caseFolded [] 'Ñ' []
  have hsplit : Respells ['ñ'] ['n', '\u0303'] := by
    simpa [hparts] using Respells.decomposed [] 'ñ' []
  have hmark : Respells ['n'] ['n', '\u0303'] :=
    Respells.marked ['n'] (by decide) (by decide) []
  exact (key_canonical "Ñ").2 "n"
    ((Relation.EqvGen.rel _ _ hcase).trans _ _ _
      ((Relation.EqvGen.rel _ _ hsplit).trans _ _ _ ((Relation.EqvGen.rel _ _ hmark).symm _ _)))

end Cuaderno.Text
