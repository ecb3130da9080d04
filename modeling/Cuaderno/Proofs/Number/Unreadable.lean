import Cuaderno.Number.Reader

/-!
# Texts that write no number

A text with a colon in it writes no number: no step of the reader drops a colon, and none of the
forms of a number has one.
-/

namespace Cuaderno.Number

open Cuaderno.Text

private theorem mem_dropWhile_of_mem {p : Char → Bool} {c : Char} (hc : p c = false)
    {cs : List Char}
    (h : c ∈ cs) : c ∈ cs.dropWhile p := by
  have hsplit : c ∈ cs.takeWhile p ++ cs.dropWhile p := by
    rw [List.takeWhile_append_dropWhile]
    exact h
  rcases List.mem_append.1 hsplit with h | h
  · have := List.all_takeWhile (p := p) (l := cs)
    rw [List.all_eq_true] at this
    rw [this c h] at hc
    cases hc
  · exact h

private theorem colon_mem_trimLatin {cs : List Char} (h : ':' ∈ cs) : ':' ∈ trimLatin cs := by
  have hblank : isLatinBlank ':' = false := by decide
  rw [trimLatin, List.mem_reverse]
  apply mem_dropWhile_of_mem hblank
  rw [List.mem_reverse]
  exact mem_dropWhile_of_mem hblank h

private theorem colon_mem_latinForm? {cs plain : List Char} (h : latinForm? cs = some plain)
    (hmem : ':' ∈ cs) : ':' ∈ plain := by
  unfold latinForm? at h
  split at h
  · cases h
    exact hmem
  · rename_i hother
    clear hother
    induction cs generalizing plain with
    | nil => cases hmem
    | cons c cs ih =>
      rw [List.mapM_cons] at h
      obtain ⟨d, hd, h⟩ := Option.bind_eq_some_iff.1 h
      obtain ⟨rest, hrest, h⟩ := Option.bind_eq_some_iff.1 h
      cases h
      rcases List.mem_cons.1 hmem with rfl | hmem
      · cases hd
        exact List.mem_cons_self ..
      · exact List.mem_cons_of_mem _ (ih hmem hrest)

private theorem colon_mem_withoutUnderscores? {previous : Char} {cs body : List Char}
    (h : withoutUnderscores? previous cs = some body) (hmem : ':' ∈ cs) : ':' ∈ body := by
  fun_induction withoutUnderscores? previous cs generalizing body with
  | case1 => cases hmem
  | case2 => cases h
  | case3 previous c rest hdigits ih =>
    apply ih h
    rcases List.mem_cons.1 hmem with heq | hmem
    · cases heq
    · exact hmem
  | case4 => cases h
  | case5 previous c rest hnot ih =>
    obtain ⟨own, hown, rfl⟩ := Option.map_eq_some_iff.1 h
    rcases List.mem_cons.1 hmem with rfl | hmem
    · exact List.mem_cons_self ..
    · exact List.mem_cons_of_mem _ (ih hown hmem)

private theorem colon_mem_signAndRest {cs : List Char} (h : ':' ∈ cs) :
    ':' ∈ (signAndRest cs).2 := by
  unfold signAndRest
  split
  · simpa using h
  · simpa using h
  · exact h

private theorem colon_mem_digitsAndRest {cs : List Char} (h : ':' ∈ cs) :
    ':' ∈ (digitsAndRest cs).2 := by
  fun_induction digitsAndRest cs with
  | case1 => cases h
  | case2 c cs d hd ds rest hrest ih =>
    rcases List.mem_cons.1 h with rfl | h
    · cases hd
    · simpa [hrest] using ih h
  | case3 c cs hnone => exact h

private theorem exponent?_of_colon {cs : List Char} (h : ':' ∈ cs) : exponent? cs = none := by
  cases cs with
  | nil => cases h
  | cons c cs =>
    rw [exponent?]
    by_cases he : (decide (c = 'e') || decide (c = 'E')) = true
    · rw [if_pos he]
      have hmem : ':' ∈ cs := by
        rcases List.mem_cons.1 h with rfl | h
        · exact absurd he (by decide)
        · exact h
      have hrest := colon_mem_digitsAndRest (colon_mem_signAndRest hmem)
      split
      rename_i rest heq
      rw [heq] at hrest
      split
      · rename_i hempty
        rw [hempty] at hrest
        cases hrest
      · rfl
    · rw [if_neg he]

private theorem literal?_of_colon {cs : List Char} (h : ':' ∈ cs) : literal? cs = none := by
  have hrest := colon_mem_digitsAndRest h
  unfold literal?
  cases hdigits : digitsAndRest cs with
  | mk whole rest =>
    rw [hdigits] at hrest
    dsimp only at hrest ⊢
    have hend (fraction : List Nat) {last : List Char} (hlast : ':' ∈ last) :
        (if (whole.isEmpty && fraction.isEmpty) = true then none
          else (exponent? last).map (⟨whole, fraction, ·⟩ : Int → Literal)) = none := by
      rw [exponent?_of_colon hlast, Option.map_none, ite_self]
    split
    · exact hend _ (colon_mem_digitsAndRest (by simpa using hrest))
    · exact hend [] hrest

/-- A text with a colon in it writes no number. -/
theorem read?_of_colon {cs : List Char} (h : ':' ∈ cs) : read? cs = none := by
  unfold read?
  cases hplain : latinForm? cs with
  | none => rfl
  | some plain =>
    simp only [Option.bind_eq_bind, Option.bind_some]
    cases hbody : withoutUnderscores? ' ' (trimLatin plain) with
    | none => rfl
    | some body =>
      have hmem : ':' ∈ (signAndRest body).2 := colon_mem_signAndRest
        (colon_mem_withoutUnderscores? hbody (colon_mem_trimLatin (colon_mem_latinForm? hplain h)))
      have hname (name : String) (hno : ':' ∉ name.toList) :
          String.ofList ((signAndRest body).2.map lowerLatin) ≠ name := by
        intro heq
        apply hno
        rw [← heq, String.toList_ofList]
        exact List.mem_map.2 ⟨':', hmem, by decide⟩
      simp only [Option.bind_some, hname "inf" (by decide), hname "infinity" (by decide),
        hname "nan" (by decide), literal?_of_colon hmem]
      rfl

end Cuaderno.Number
