import Mathlib.Data.List.TakeWhile
import Cuaderno.QuickEntry.Scan

/-!
# The phases of a scan

A scan passes over the characters of a segment until one of them ends it. The lemmas here follow it
from the start of a segment to its end, so that what a scan does can be said without tokens: each
phase takes the segment's characters, and goes on behind the sign that ended them.
-/

namespace Cuaderno.QuickEntry

open Cuaderno.Text (isBlank trim trimStart)

theorem kindOf_eq_blank_iff {c : Char} : kindOf c = .blank ↔ isBlank c = true := by
  unfold kindOf
  repeat' split
  all_goals first
    | subst c; decide
    | simp_all

theorem kindOf_eq_at_iff {c : Char} : kindOf c = .at ↔ c = '@' := by
  unfold kindOf
  repeat' split
  all_goals simp_all

private theorem TokenKind.goesOn_blank (c : Char) : TokenKind.blank.goesOn c = isBlank c := by
  apply Bool.eq_iff_iff.2
  simp [TokenKind.goesOn, TokenKind.isRun, kindOf_eq_blank_iff]

theorem TokenKind.goesOn_of_not_isRun {k : TokenKind} {d : Char}
    (h : (kindOf d).isRun = false) : k.goesOn d = false := by
  by_cases hk : kindOf d = k
  · subst hk
    simp [TokenKind.goesOn, h]
  · simp [TokenKind.goesOn, hk]

theorem takeWhile_append_of_head {p : Char → Bool} (xs : List Char) {ys : List Char}
    (h : ∀ d ∈ ys.head?, p d = false) : (xs ++ ys).takeWhile p = xs.takeWhile p := by
  have hy : ys.takeWhile p = [] := by
    cases ys with
    | nil => rfl
    | cons d ys => simp [h d rfl]
  rw [List.takeWhile_append, hy]
  split
  · rename_i hl
    rw [List.append_nil]
    exact ((List.takeWhile_prefix p).eq_of_length hl).symm
  · rfl

theorem dropWhile_append_of_head {p : Char → Bool} (xs : List Char) {ys : List Char}
    (h : ∀ d ∈ ys.head?, p d = false) : (xs ++ ys).dropWhile p = xs.dropWhile p ++ ys := by
  have hy : ys.dropWhile p = ys := by
    cases ys with
    | nil => rfl
    | cons d ys => simp [h d rfl]
  rw [List.dropWhile_append, hy]
  split
  · rename_i he
    simp [List.isEmpty_iff.1 he]
  · rfl

/-- Where no token reaches across, the tokens of a text are those of its two parts. -/
theorem tokensFrom_append (seg rest : List Char) (offset : Nat)
    (h : ∀ c ∈ seg, ∀ d ∈ rest.head?, (kindOf c).goesOn d = false) :
    ∃ ts, (∀ t ∈ ts, ∃ c ∈ seg, t.kind = kindOf c) ∧
      tokensFrom offset (seg ++ rest) = ts ++ tokensFrom (offset + seg.length) rest := by
  fun_induction tokensFrom offset seg with
  | case1 offset => exact ⟨[], by simp, by simp⟩
  | case2 offset c cs k run ih =>
    have hc : ∀ d ∈ rest.head?, k.goesOn d = false := h c (by simp)
    have hlen : run.length + (cs.dropWhile k.goesOn).length = (c :: cs).length := by
      have hl := congrArg List.length (List.takeWhile_append_dropWhile (p := k.goesOn) (l := cs))
      rw [List.length_append] at hl
      simp only [run, List.length_cons]
      omega
    obtain ⟨ts, hts, he⟩ := ih fun d hd =>
      h d (List.mem_cons_of_mem _ ((List.dropWhile_suffix _).subset hd))
    refine ⟨⟨k, run, offset⟩ :: ts, ?_, ?_⟩
    · intro t ht
      rcases List.mem_cons.1 ht with rfl | ht
      · exact ⟨c, by simp, rfl⟩
      · obtain ⟨d, hd, hk⟩ := hts t ht
        exact ⟨d, List.mem_cons_of_mem _ ((List.dropWhile_suffix _).subset hd), hk⟩
    · rw [List.cons_append, tokensFrom]
      rw [takeWhile_append_of_head cs hc, dropWhile_append_of_head cs hc]
      rw [← hlen, ← Nat.add_assoc]
      exact congrArg (_ :: ·) he

theorem tokensFrom_sign {d : Char} (hd : (kindOf d).isRun = false) (offset : Nat)
    (rest : List Char) :
    tokensFrom offset (d :: rest) = ⟨kindOf d, [d], offset⟩ :: tokensFrom (offset + 1) rest := by
  have ht : rest.takeWhile (kindOf d).goesOn = [] := by
    cases rest with
    | nil => rfl
    | cons c rest => simp [TokenKind.goesOn, hd]
  have hw : rest.dropWhile (kindOf d).goesOn = rest := by
    cases rest with
    | nil => rfl
    | cons c rest => simp [TokenKind.goesOn, hd]
  rw [tokensFrom]
  simp only [ht, hw]
  rfl

theorem dropWhile_blank_tokensFrom (offset : Nat) (cs : List Char) :
    ∃ k, (tokensFrom offset cs).dropWhile (·.kind = .blank) = tokensFrom (offset + k) (trimStart cs)
      ∧ cs.drop k = trimStart cs := by
  have hcs : cs.takeWhile isBlank ++ trimStart cs = cs := List.takeWhile_append_dropWhile
  obtain ⟨ts, hts, he⟩ := tokensFrom_append (cs.takeWhile isBlank) (trimStart cs) offset (by
      intro c hc d hd
      have hb : isBlank c = true := List.mem_takeWhile_imp hc
      rw [kindOf_eq_blank_iff.2 hb, TokenKind.goesOn_blank]
      exact Text.head?_trimStart hd)
  refine ⟨(cs.takeWhile isBlank).length, ?_, ?_⟩
  · rw [hcs] at he
    rw [he, List.dropWhile_append_of_pos]
    · cases hr : trimStart cs with
      | nil => simp [tokensFrom]
      | cons d rest =>
        have hd : kindOf d ≠ .blank := by
          intro hk
          have hb : isBlank d = false := Text.head?_trimStart (by rw [hr]; rfl)
          simp [kindOf_eq_blank_iff.1 hk] at hb
        rw [tokensFrom]
        simp [hd]
    · intro t ht
      obtain ⟨c, hc, hk⟩ := hts t ht
      have hb : isBlank c = true := List.mem_takeWhile_imp hc
      simp [hk, kindOf_eq_blank_iff.2 hb]
  · have hd : (cs.takeWhile isBlank ++ trimStart cs).drop (cs.takeWhile isBlank).length =
        trimStart cs := List.drop_left
    rwa [hcs] at hd

def trimmed (cs : List Char) : String := String.ofList (trim cs)

theorem trimmed_eq_empty_iff {cs : List Char} : trimmed cs = "" ↔ trim cs = [] :=
  String.ofList_eq_empty_iff

/-- Whether a scan passes over the tokens of a kind while it reads a segment. -/
def Reading.passes : Reading → TokenKind → Bool
  | .type, .text | .type, .blank => true
  | .type, _ => false
  | .name, .greater | .name, .stop => false
  | .name, _ => true
  | .property, .equals | .property, .greater => false
  | .property, _ => true
  | .value, .greater | .value, .stop => false
  | .value, _ => true

/-- The signs that a scan does not pass over while it reads a segment. -/
def Reading.ends : Reading → List Char
  | .type => ['@', '/', '>', '=']
  | .name => ['>']
  | .property => ['>', '=']
  | .value => ['>']

private theorem Reading.passes_of_not_mem_ends {r : Reading} {c : Char} (h : c ∉ r.ends) :
    r.passes (kindOf c) = true := by
  unfold kindOf
  cases r <;> simp only [Reading.ends, List.mem_cons, List.not_mem_nil, or_false, not_or] at h <;>
    repeat' split
  all_goals first
    | rfl
    | simp_all

/-- Goes on with a scan at an offset, behind which the line has the given characters. -/
def Progress.scanFrom (source : List Char) (p : Progress) (offset : Nat) (cs : List Char) :
    Except Progress Progress :=
  (tokensFrom offset cs).foldlM (Progress.step source) p

/-- The parts that a scan has found at its end. -/
def outcome (r : Except Progress Progress) : Option Entry :=
  match r with
  | .ok p => some ⟨p.typeWord, p.name, p.assignments⟩
  | .error _ => none

namespace Progress

variable {source seg rest : List Char} {p : Progress} {offset : Nat}

theorem step_of_passes {t : Token} (h : p.reading.passes t.kind = true) :
    step source p t = .ok p := by
  unfold step
  cases hr : p.reading <;> cases hk : t.kind <;> simp_all [Reading.passes]

private theorem foldlM_step_of_passes {ts : List Token}
    (h : ∀ t ∈ ts, p.reading.passes t.kind = true) :
    ts.foldlM (step source) p = .ok p := by
  induction ts with
  | nil => rfl
  | cons t ts ih =>
    rw [List.foldlM_cons, step_of_passes (h t (by simp))]
    exact ih fun t ht => h t (List.mem_cons_of_mem _ ht)

/-- A scan passes over all of a segment up to a sign that it does not pass over. -/
theorem scanFrom_append (hseg : ∀ c ∈ seg, c ∉ p.reading.ends)
    (hrest : ∀ d ∈ rest.head?, (kindOf d).isRun = false) :
    p.scanFrom source offset (seg ++ rest) = p.scanFrom source (offset + seg.length) rest := by
  obtain ⟨ts, hts, he⟩ := tokensFrom_append seg rest offset
    fun c _ d hd => TokenKind.goesOn_of_not_isRun (hrest d hd)
  have hpass : ts.foldlM (step source) p = .ok p := by
    apply foldlM_step_of_passes
    intro t ht
    obtain ⟨c, hc, hk⟩ := hts t ht
    rw [hk]
    exact Reading.passes_of_not_mem_ends (hseg c hc)
  rw [scanFrom, he, List.foldlM_append, hpass]
  rfl

theorem scanFrom_cons {d : Char} (hd : (kindOf d).isRun = false) :
    p.scanFrom source offset (d :: rest) =
      (step source p ⟨kindOf d, [d], offset⟩).bind fun q =>
        q.scanFrom source (offset + 1) rest := by
  rw [scanFrom, tokensFrom_sign hd, List.foldlM_cons]
  rfl

/-- A segment up to the sign that ends it: only the sign is a step. -/
theorem scanFrom_append_cons {d : Char} (hseg : ∀ c ∈ seg, c ∉ p.reading.ends)
    (hd : (kindOf d).isRun = false) :
    p.scanFrom source offset (seg ++ d :: rest) =
      (step source p ⟨kindOf d, [d], offset + seg.length⟩).bind fun q =>
        q.scanFrom source (offset + seg.length + 1) rest := by
  rw [scanFrom_append hseg (by intro c hc; cases hc; exact hd), scanFrom_cons hd]

theorem scanFrom_nil : p.scanFrom source offset [] = step source p ⟨.stop, [], offset⟩ := by
  rw [scanFrom, tokensFrom, List.foldlM_cons]
  cases step source p ⟨.stop, [], offset⟩ <;> rfl

theorem scanFrom_of_not_mem_ends (hseg : ∀ c ∈ seg, c ∉ p.reading.ends) :
    p.scanFrom source offset seg = step source p ⟨.stop, [], offset + seg.length⟩ := by
  have h : p.scanFrom source offset (seg ++ []) = p.scanFrom source (offset + seg.length) [] :=
    scanFrom_append hseg (by simp)
  rw [List.append_nil] at h
  rw [h, scanFrom_nil]

/-- The text of a segment, given what follows its start in the line. -/
theorem segment_eq {t : Token} (hs : source.drop p.segmentStart = seg ++ rest)
    (ht : t.offset = p.segmentStart + seg.length) :
    p.segment source t = trimmed seg := by
  rw [segment, trimmed, ht, List.drop_take, hs, Nat.add_sub_cancel_left, List.take_left]

theorem drop_behind {n : Nat} {d : Char} (h : source.drop n = seg ++ d :: rest) :
    source.drop (n + seg.length + 1) = rest := by
  rw [Nat.add_assoc, ← List.drop_drop, h, ← List.drop_drop, List.drop_left]
  rfl

/-- The word for a type ends at the first `/`. -/
theorem outcome_type (hr : p.reading = .type) (hs : source.drop p.segmentStart = seg ++ '/' :: rest)
    (hseg : ∀ c ∈ seg, c ∉ Reading.type.ends) :
    outcome (p.scanFrom source p.segmentStart (seg ++ '/' :: rest)) =
      if trimmed seg = "" then none
      else
        let start := p.segmentStart + seg.length + 1
        outcome (scanFrom source
          { p with typeWord := trimmed seg, reading := .name, segmentStart := start } start rest)
    := by
  have hword : p.segment source ⟨.slash, ['/'], p.segmentStart + seg.length⟩ = trimmed seg :=
    segment_eq hs rfl
  have hk : kindOf '/' = .slash := rfl
  rw [scanFrom_append_cons (hr ▸ hseg) rfl]
  simp only [hk, step, hr, hword]
  by_cases he : trimmed seg = ""
  · simp only [if_pos he]
    rfl
  · simp only [if_neg he]
    rfl

theorem outcome_type_none (hr : p.reading = .type) (hseg : ∀ c ∈ seg, c ∉ Reading.type.ends)
    (hrest : ∀ d ∈ rest.head?, d = '@' ∨ d = '>' ∨ d = '=') :
    outcome (p.scanFrom source p.segmentStart (seg ++ rest)) = none := by
  cases rest with
  | nil =>
    rw [List.append_nil, scanFrom_of_not_mem_ends (hr ▸ hseg)]
    simp only [step, hr]
    rfl
  | cons d rest =>
    rcases hrest d rfl with rfl | rfl | rfl
    all_goals
      rw [scanFrom_append_cons (hr ▸ hseg) rfl]
      simp only [step, hr]
      rfl

/-- A name ends at the first `>`. -/
theorem outcome_name (hr : p.reading = .name) (hs : source.drop p.segmentStart = seg ++ '>' :: rest)
    (hseg : ∀ c ∈ seg, c ∉ Reading.name.ends) :
    outcome (p.scanFrom source p.segmentStart (seg ++ '>' :: rest)) =
      if trimmed seg = "" then none
      else
        let start := p.segmentStart + seg.length + 1
        outcome (scanFrom source
          { p with name := trimmed seg, reading := .property, segmentStart := start } start rest)
    := by
  have hword : p.segment source ⟨.greater, ['>'], p.segmentStart + seg.length⟩ = trimmed seg :=
    segment_eq hs rfl
  have hk : kindOf '>' = .greater := rfl
  rw [scanFrom_append_cons (hr ▸ hseg) rfl]
  simp only [hk, step, hr, hword]
  by_cases he : trimmed seg = ""
  · simp only [if_pos he]
    rfl
  · simp only [if_neg he]
    rfl

theorem outcome_name_stop (hr : p.reading = .name) (hs : source.drop p.segmentStart = seg)
    (hseg : ∀ c ∈ seg, c ∉ Reading.name.ends) :
    outcome (p.scanFrom source p.segmentStart seg) =
      if trimmed seg = "" then none else some ⟨p.typeWord, trimmed seg, p.assignments⟩ := by
  have hword : p.segment source ⟨.stop, [], p.segmentStart + seg.length⟩ = trimmed seg :=
    segment_eq (by rw [hs, List.append_nil]) rfl
  rw [scanFrom_of_not_mem_ends (hr ▸ hseg)]
  simp only [step, hr, hword]
  by_cases he : trimmed seg = ""
  · simp only [if_pos he]
    rfl
  · simp only [if_neg he]
    rfl

/-- The name of a property ends at the first `=`. -/
theorem outcome_property (hr : p.reading = .property)
    (hs : source.drop p.segmentStart = seg ++ '=' :: rest)
    (hseg : ∀ c ∈ seg, c ∉ Reading.property.ends) :
    outcome (p.scanFrom source p.segmentStart (seg ++ '=' :: rest)) =
      if trimmed seg = "" then none
      else
        let start := p.segmentStart + seg.length + 1
        outcome (scanFrom source
          { p with pending := some (trimmed seg), reading := .value, segmentStart := start }
          start rest)
    := by
  have hword : p.segment source ⟨.equals, ['='], p.segmentStart + seg.length⟩ = trimmed seg :=
    segment_eq hs rfl
  have hk : kindOf '=' = .equals := rfl
  rw [scanFrom_append_cons (hr ▸ hseg) rfl]
  simp only [hk, step, hr, hword]
  by_cases he : trimmed seg = ""
  · simp only [if_pos he]
    rfl
  · simp only [if_neg he]
    rfl

theorem outcome_property_none (hr : p.reading = .property)
    (hseg : ∀ c ∈ seg, c ∉ Reading.property.ends) :
    outcome (p.scanFrom source p.segmentStart (seg ++ '>' :: rest)) = none := by
  rw [scanFrom_append_cons (hr ▸ hseg) rfl]
  have hk : kindOf '>' = .greater := rfl
  simp only [hk, step, hr]
  rfl

theorem outcome_property_stop (hr : p.reading = .property)
    (hseg : ∀ c ∈ seg, c ∉ Reading.property.ends) :
    outcome (p.scanFrom source p.segmentStart seg) =
      some ⟨p.typeWord, p.name, p.assignments⟩ := by
  rw [scanFrom_of_not_mem_ends (hr ▸ hseg)]
  simp only [step, hr]
  rfl

/-- A value ends at the first `>`. -/
theorem outcome_value {property : String} (hr : p.reading = .value)
    (hp : p.pending = some property) (hs : source.drop p.segmentStart = seg ++ '>' :: rest)
    (hseg : ∀ c ∈ seg, c ∉ Reading.value.ends) :
    outcome (p.scanFrom source p.segmentStart (seg ++ '>' :: rest)) =
      let start := p.segmentStart + seg.length + 1
      outcome (scanFrom source
        { p with
          assignments := Fields.erase property p.assignments ++ [(property, trimmed seg)]
          pending := none, reading := .property, segmentStart := start } start rest)
    := by
  have hword : p.segment source ⟨.greater, ['>'], p.segmentStart + seg.length⟩ = trimmed seg :=
    segment_eq hs rfl
  have hk : kindOf '>' = .greater := rfl
  rw [scanFrom_append_cons (hr ▸ hseg) rfl]
  simp only [hk, step, hr, hword, hp]
  rfl

theorem outcome_value_stop {property : String} (hr : p.reading = .value)
    (hp : p.pending = some property) (hs : source.drop p.segmentStart = seg)
    (hseg : ∀ c ∈ seg, c ∉ Reading.value.ends) :
    outcome (p.scanFrom source p.segmentStart seg) =
      some ⟨p.typeWord, p.name,
        Fields.erase property p.assignments ++ [(property, trimmed seg)]⟩ := by
  have hword : p.segment source ⟨.stop, [], p.segmentStart + seg.length⟩ = trimmed seg :=
    segment_eq (by rw [hs, List.append_nil]) rfl
  rw [scanFrom_of_not_mem_ends (hr ▸ hseg)]
  simp only [step, hr, hword, hp]
  rfl

end Progress

end Cuaderno.QuickEntry
