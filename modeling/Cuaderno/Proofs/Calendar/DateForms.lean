import Cuaderno.Calendar.Iso

/-!
# The forms of a date

A date is written as a year with a week, with a week and a day, or with a month and a day, and with
hyphens between all of its parts or none (`IsDateText`). So a text that writes a date starts with
the four digits of its year, has no other characters than digits, hyphens and the `W`, and is read
to its end (`stamp?_of_date?`).
-/

namespace Cuaderno.Iso

open Cuaderno.Text (latinDigit?)

inductive IsDateText : List Char → Prop where
  | week {sep : List Char} {y₁ y₂ y₃ y₄ w₁ w₂ : Char} (hyphens : sep = [] ∨ sep = ['-'])
      (digits : ∀ c ∈ [y₁, y₂, y₃, y₄, w₁, w₂], isDigit c = true) :
      IsDateText (y₁ :: y₂ :: y₃ :: y₄ :: sep ++ ['W', w₁, w₂])
  | weekDay {sep : List Char} {y₁ y₂ y₃ y₄ w₁ w₂ d : Char} (hyphens : sep = [] ∨ sep = ['-'])
      (digits : ∀ c ∈ [y₁, y₂, y₃, y₄, w₁, w₂, d], isDigit c = true) :
      IsDateText (y₁ :: y₂ :: y₃ :: y₄ :: sep ++ 'W' :: w₁ :: w₂ :: sep ++ [d])
  | calendar {sep : List Char} {y₁ y₂ y₃ y₄ m₁ m₂ d₁ d₂ : Char}
      (hyphens : sep = [] ∨ sep = ['-'])
      (digits : ∀ c ∈ [y₁, y₂, y₃, y₄, m₁, m₂, d₁, d₂], isDigit c = true) :
      IsDateText (y₁ :: y₂ :: y₃ :: y₄ :: sep ++ m₁ :: m₂ :: sep ++ [d₁, d₂])

variable {cs : List Char} {d : Date}

private theorem isDigit_of_number? {n : Nat} (h : number? cs = some n) :
    ∀ c ∈ cs, isDigit c = true := by
  obtain ⟨ds, hds, -⟩ := Option.map_eq_some_iff.1 h
  clear h
  induction cs generalizing ds with
  | nil => exact List.forall_mem_nil _
  | cons c cs ih =>
    rw [List.mapM_cons] at hds
    obtain ⟨v, hv, hds⟩ := Option.bind_eq_some_iff.1 hds
    obtain ⟨vs, hvs, -⟩ := Option.bind_eq_some_iff.1 hds
    refine List.forall_mem_cons.2 ⟨?_, ih vs hvs⟩
    rw [isDigit, hv]
    rfl

private theorem isDigit_of_weekDate? {year week day : List Char}
    (h : weekDate? year week day = some d) :
    ∀ c ∈ year ++ week ++ day, isDigit c = true := by
  unfold weekDate? at h
  obtain ⟨y, hy, h⟩ := Option.bind_eq_some_iff.1 h
  obtain ⟨w, hw, h⟩ := Option.bind_eq_some_iff.1 h
  obtain ⟨n, hn, -⟩ := Option.bind_eq_some_iff.1 h
  simp only [List.forall_mem_append]
  exact ⟨⟨isDigit_of_number? hy, isDigit_of_number? hw⟩, isDigit_of_number? hn⟩

private theorem isDigit_of_calendarDate? {year month day : List Char}
    (h : calendarDate? year month day = some d) :
    ∀ c ∈ year ++ month ++ day, isDigit c = true := by
  unfold calendarDate? at h
  obtain ⟨y, hy, h⟩ := Option.bind_eq_some_iff.1 h
  obtain ⟨m, hm, h⟩ := Option.bind_eq_some_iff.1 h
  obtain ⟨n, hn, -⟩ := Option.bind_eq_some_iff.1 h
  simp only [List.forall_mem_append]
  exact ⟨⟨isDigit_of_number? hy, isDigit_of_number? hm⟩, isDigit_of_number? hn⟩

theorem isDateText_of_date? (h : date? cs = some d) : IsDateText cs := by
  unfold date? at h
  split at h
  · have hdigits := isDigit_of_weekDate? h
    exact .week (.inr rfl) fun c hc => hdigits c (List.mem_append_left ['1'] hc)
  · exact .weekDay (.inr rfl) (isDigit_of_weekDate? h)
  · have hdigits := isDigit_of_weekDate? h
    exact .week (.inl rfl) fun c hc => hdigits c (List.mem_append_left ['1'] hc)
  · exact .weekDay (.inl rfl) (isDigit_of_weekDate? h)
  · exact .calendar (.inr rfl) (isDigit_of_calendarDate? h)
  · exact .calendar (.inl rfl) (isDigit_of_calendarDate? h)
  · cases h

theorem IsDateText.exists_year (h : IsDateText cs) : ∃ y₁ y₂ y₃ y₄ rest,
    cs = y₁ :: y₂ :: y₃ :: y₄ :: rest ∧ ∀ c ∈ [y₁, y₂, y₃, y₄], isDigit c = true := by
  cases h with
  | week _ digits | weekDay _ digits | calendar _ digits =>
    exact ⟨_, _, _, _, _, rfl, fun c hc => digits c (List.mem_append_left _ hc)⟩

theorem ne_of_isDigit {c sign : Char} (hc : isDigit c = true) (hsign : isDigit sign = false) :
    c ≠ sign := by
  rintro rfl
  rw [hc] at hsign
  cases hsign

theorem IsDateText.colon_not_mem (h : IsDateText cs) : ':' ∉ cs := by
  have hcolon {c : Char} (hc : isDigit c = true) : ':' ≠ c := (ne_of_isDigit hc (by decide)).symm
  cases h with
  | week hyphens digits | weekDay hyphens digits | calendar hyphens digits =>
    simp only [List.forall_mem_cons] at digits
    rcases hyphens with rfl | rfl <;> simp [digits, hcolon]

theorem IsDateText.dateLength? (h : IsDateText cs) : dateLength? cs = some cs.length := by
  cases h with
  | week hyphens digits => rcases hyphens with rfl | rfl <;> simp [Iso.dateLength?]
  | @weekDay sep _ _ _ _ _ _ d hyphens digits =>
    have hd : isDigit d = true := digits d (by simp)
    rcases hyphens with rfl | rfl <;> simp [Iso.dateLength?, hd]
  | @calendar sep _ _ _ _ m₁ m₂ d₁ d₂ hyphens digits =>
    -- a month starts with a digit, so it is no week
    have hm : isDigit m₁ = true := digits m₁ (by simp)
    have hhyphen : m₁ ≠ '-' := ne_of_isDigit hm (by decide)
    have hW : m₁ ≠ 'W' := ne_of_isDigit hm (by decide)
    rcases hyphens with rfl | rfl <;> simp [Iso.dateLength?, hhyphen, hW]

theorem exists_year_of_stamp? {s : Stamp} (h : stamp? cs = some s) : ∃ y₁ y₂ y₃ y₄ rest,
    cs = y₁ :: y₂ :: y₃ :: y₄ :: rest ∧ ∀ c ∈ [y₁, y₂, y₃, y₄], isDigit c = true := by
  unfold stamp? at h
  obtain ⟨length, -, h⟩ := Option.bind_eq_some_iff.1 h
  obtain ⟨d, hd, -⟩ := Option.bind_eq_some_iff.1 h
  obtain ⟨y₁, y₂, y₃, y₄, rest, htake, hdigits⟩ := (isDateText_of_date? hd).exists_year
  have hsplit := List.take_append_drop length cs
  rw [htake] at hsplit
  exact ⟨y₁, y₂, y₃, y₄, rest ++ cs.drop length, hsplit.symm, hdigits⟩

/-- A text that writes a date writes the midnight of it. -/
theorem stamp?_of_date? (h : date? cs = some d) : stamp? cs = some ⟨.startOf d, none⟩ := by
  have hlength := (isDateText_of_date? h).dateLength?
  simp [stamp?, hlength, h, Moment.startOf]

end Cuaderno.Iso
