import Cuaderno.Calendar.Written
import Cuaderno.Proofs.Calendar.DateForms
import Cuaderno.Proofs.Calendar.RelativeDays
import Cuaderno.Proofs.Text.Folding

/-!
# Texts beyond the calendar

A stamp with an offset may write a moment before the first date or behind the last one. That is the
only way in which a typed date is a fault when it is evaluated in a year between the first and the
last (`Written.moment_eq_error`, `Written.span_eq_error`): a text that writes no date is none, and a
relative date seen from such a year is always a span.
-/

namespace Cuaderno

def Moment.calendarEnd : Int := (Date.lastOrdinal + 1) * microsPerDay

/-- Whether an instant lies before the first date or behind the last one. -/
def Moment.IsOutside (i : Int) : Prop := i < Moment.first.instant ∨ calendarEnd ≤ i

instance (i : Int) : Decidable (Moment.IsOutside i) := inferInstanceAs (Decidable (_ ∨ _))

theorem Moment.ofInstant?_eq_none {i : Int} : ofInstant? i = none ↔ IsOutside i := by
  have hfirst : Moment.first.instant = (microsPerDay : Int) := by decide
  rw [ofInstant?, Option.map_eq_none_iff, IsOutside, hfirst, calendarEnd]
  constructor
  · intro hnone
    by_contra hinside
    obtain ⟨d, hd, -⟩ := Date.ofOrdinal?_eq_some (n := (i / microsPerDay).toNat)
      (by simp only [microsPerDay] at hinside ⊢; omega)
      (by simp only [microsPerDay] at hinside ⊢; omega)
    rw [Int.toNat_of_nonneg (by simp only [microsPerDay] at hinside ⊢; omega), hnone] at hd
    cases hd
  · intro houtside
    apply Date.ofOrdinal?_eq_none
    simp only [microsPerDay] at houtside ⊢
    omega

/-- Whether the moment of a stamp lies outside the calendar. -/
def Stamp.IsBeyond (s : Stamp) : Prop :=
  ∃ offset ∈ s.offset, Moment.IsOutside (s.reading.instant - offset)

instance (s : Stamp) : Decidable s.IsBeyond :=
  inferInstanceAs (Decidable (∃ offset ∈ s.offset, _))

private theorem Stamp.not_isBeyond_of_none (m : Moment) : ¬ Stamp.IsBeyond ⟨m, none⟩ := by
  rintro ⟨offset, hoffset, -⟩
  cases hoffset

theorem Stamp.moment_eq_error {s : Stamp} {fault : Fault} :
    s.moment = .error fault ↔ fault = .outOfRange ∧ s.IsBeyond := by
  obtain ⟨m, offset⟩ := s
  cases offset with
  | none => simp [moment, Stamp.not_isBeyond_of_none]
  | some offset =>
    have hbeyond : IsBeyond ⟨m, some offset⟩ ↔ Moment.ofInstant? (m.instant - offset) = none := by
      simp [IsBeyond, Moment.ofInstant?_eq_none]
    rw [hbeyond]
    cases hown : Moment.ofInstant? (m.instant - offset) with
    | none => simp [moment, moment?, hown, eq_comm]
    | some own => simp [moment, moment?, hown]

theorem Stamp.exists_moment {s : Stamp} (h : ¬ s.IsBeyond) : ∃ m, s.moment = .ok m :=
  Outcome.exists_eq_ok fun _ he => h (moment_eq_error.1 he).2

theorem Stamp.not_isBeyond_of_moment {s : Stamp} {m : Moment} (h : s.moment = .ok m) :
    ¬ s.IsBeyond := by
  intro hbeyond
  rw [moment_eq_error.2 ⟨rfl, hbeyond⟩] at h
  cases h

namespace Text

/-- A character that is no blank is left when the blanks around a text go. -/
theorem mem_trim {c : Char} {cs : List Char} (hblank : isBlank c = false) :
    c ∈ trim cs ↔ c ∈ cs := by
  obtain ⟨before, after, hcs, hbefore, hafter⟩ := exists_blanks_trim cs
  have hout {bs : List Char} (hbs : ∀ b ∈ bs, isBlank b = true) : c ∉ bs := by
    intro h
    rw [hbs c h] at hblank
    cases hblank
  rw [hcs, List.mem_append, List.mem_append, ← hcs, or_iff_right (hout hbefore),
    or_iff_left (hout hafter)]

private theorem mem_fold {c : Char} {cs : List Char} (hblank : isBlank c = false) :
    c ∈ fold cs ↔ c ∈ foldChars cs := mem_trim hblank

/-- A character that is its own folded form is in the folded form of a text that it is in. -/
theorem mem_fold_of_mem {c : Char} {cs : List Char} (hblank : isBlank c = false)
    (hfold : foldChar c = [c]) (h : c ∈ cs) : c ∈ fold cs := by
  rw [mem_fold hblank]
  exact List.mem_flatMap.2 ⟨c, h, by rw [hfold]; exact List.mem_singleton_self c⟩

private theorem eq_digitChar_of_latinDigit? {c : Char} {d : Nat} (h : latinDigit? c = some d) :
    d < 10 ∧ c = digitChar d := by
  unfold latinDigit? at h
  split at h
  · rename_i hrange
    simp only [Bool.and_eq_true, decide_eq_true_eq] at hrange
    cases h
    refine ⟨by omega, ?_⟩
    rw [digitChar, show 48 + (c.toNat - 48) = c.toNat by omega, Char.ofNat_toNat]
  · cases h

theorem foldChar_digitChar : ∀ d < 10, isBlank (digitChar d) = false ∧
    foldChar (digitChar d) = [digitChar d] := by
  decide +kernel

end Text

namespace Relative

theorem resolve_eq_ok_none {signRequired : Bool} {cs : List Char} {clock : Clock} :
    resolve signRequired cs clock = .ok none ↔ ofText? signRequired cs = none := by
  unfold resolve
  cases ofText? signRequired cs with
  | none => simp
  | some r =>
    simp only [reduceCtorEq, iff_false]
    intro h
    obtain ⟨m, -, h⟩ := Outcome.bind_eq_ok.1 h
    split at h <;> cases h

private theorem not_isDigit_of_mem_word (r : Relative) :
    ∀ c ∈ r.word.toList, Iso.isDigit c = false := by
  have hall : (r.word.toList.all fun c => !Iso.isDigit c) = true := by
    cases r <;> decide +kernel
  simpa using hall

private theorem ofKey?_eq_some {key : String} {r : Relative} (h : ofKey? key = some r) :
    r.word = key := by
  have := List.find?_some h
  simpa using this

/-- No word has a character that is its own folded form and is in no word of a relative date. -/
theorem ofKey?_of_mem {word : List Char} {c : Char} (hmem : c ∈ word)
    (hblank : Text.isBlank c = false) (hfold : Text.foldChar c = [c])
    (hword : ∀ r : Relative, c ∉ r.word.toList) :
    ofKey? (String.ofList (Text.fold word)) = none := by
  cases hr : ofKey? (String.ofList (Text.fold word)) with
  | none => rfl
  | some r =>
    have hown : c ∈ r.word.toList := by
      rw [ofKey?_eq_some hr, String.toList_ofList]
      exact Text.mem_fold_of_mem hblank hfold hmem
    exact absurd hown (hword r)

theorem ofText?_of_mem {signRequired : Bool} {cs : List Char} {c : Char}
    (hmem : c ∈ Text.trim cs) (hsign : c ≠ '@') (hblank : Text.isBlank c = false)
    (hfold : Text.foldChar c = [c]) (hword : ∀ r : Relative, c ∉ r.word.toList) :
    ofText? signRequired cs = none := by
  unfold ofText?
  split
  · rename_i word htrim
    rw [htrim, List.mem_cons] at hmem
    exact ofKey?_of_mem (hmem.resolve_left hsign) hblank hfold hword
  · split
    · rfl
    · exact ofKey?_of_mem hmem hblank hfold hword

/-- A text with a digit in it names no relative date. -/
theorem ofText?_of_isDigit {signRequired : Bool} {cs : List Char} {c : Char}
    (hmem : c ∈ Text.trim cs) (hdigit : Iso.isDigit c = true) :
    ofText? signRequired cs = none := by
  obtain ⟨d, hd⟩ := Option.isSome_iff_exists.1 hdigit
  obtain ⟨hlt, rfl⟩ := Text.eq_digitChar_of_latinDigit? hd
  obtain ⟨hblank, hfold⟩ := Text.foldChar_digitChar d hlt
  apply ofText?_of_mem hmem (Iso.ne_of_isDigit hdigit (by decide)) hblank hfold
  intro r hword
  rw [not_isDigit_of_mem_word r _ hword] at hdigit
  cases hdigit

/-- A relative date is a fault when the time of evaluation is one, or when it leaves the
calendar. -/
theorem resolve_eq_error {signRequired : Bool} {cs : List Char} {clock : Clock} {fault : Fault} :
    resolve signRequired cs clock = .error fault ↔ ∃ r, ofText? signRequired cs = some r ∧
      (clock.now = .error fault ∨
        ∃ now, clock.now = .ok now ∧ fault = .outOfRange ∧ r.span? now.date = none) := by
  unfold resolve
  cases ofText? signRequired cs with
  | none => simp
  | some r =>
    cases clock.now with
    | error e => simp
    | ok now => cases hspan : r.span? now.date <;> simp [hspan, eq_comm]

/-- Seen from an inner year, no relative date is a fault. -/
theorem resolve_ne_error {signRequired : Bool} {cs : List Char} {clock : Clock} {now : Moment}
    (hnow : clock.now = .ok now) (hinner : now.date.IsInner) (fault : Fault) :
    resolve signRequired cs clock ≠ .error fault := by
  rw [ne_eq, resolve_eq_error]
  rintro ⟨r, -, h | ⟨m, hm, -, hnone⟩⟩
  · rw [hnow] at h
    cases h
  · obtain ⟨span, hspan⟩ := r.exists_span? hinner
    rw [hnow] at hm
    cases hm
    rw [hspan] at hnone
    cases hnone

end Relative

namespace Iso

theorem exists_isDigit_of_stamp? {cs : List Char} {s : Stamp} (h : stamp? cs = some s) :
    ∃ c rest, cs = c :: rest ∧ isDigit c = true := by
  obtain ⟨y₁, y₂, y₃, y₄, rest, rfl, hdigits⟩ := exists_year_of_stamp? h
  exact ⟨y₁, _, rfl, hdigits y₁ List.mem_cons_self⟩

end Iso

namespace Written

/-- Whether a text writes a stamp whose moment lies outside the calendar. -/
def IsBeyond (cs : List Char) : Prop := ∃ s ∈ Iso.stamp? (Text.trim cs), s.IsBeyond

instance (cs : List Char) : Decidable (IsBeyond cs) :=
  inferInstanceAs (Decidable (∃ s ∈ Iso.stamp? (Text.trim cs), _))

theorem ofText?_of_stamp? {cs : List Char} {s : Stamp} (h : Iso.stamp? (Text.trim cs) = some s)
    (signRequired : Bool) : Relative.ofText? signRequired cs = none := by
  obtain ⟨c, rest, htrim, hdigit⟩ := Iso.exists_isDigit_of_stamp? h
  exact Relative.ofText?_of_isDigit (by rw [htrim]; exact List.mem_cons_self ..) hdigit

theorem IsBeyond.ofText? {cs : List Char} (h : IsBeyond cs) (signRequired : Bool) :
    Relative.ofText? signRequired cs = none := by
  obtain ⟨s, hs, -⟩ := h
  exact ofText?_of_stamp? hs signRequired

variable {cs : List Char} {clock : Clock} {now : Moment} {fault : Fault}

/-- A typed moment is a fault when it is a relative date that is one, or lies outside the
calendar. -/
theorem moment_eq_error_iff : moment cs clock = .error fault ↔
    Relative.resolve false cs clock = .error fault ∨ fault = .outOfRange ∧ IsBeyond cs := by
  have hresolve : Relative.resolve false (Text.trim cs) clock =
      Relative.resolve false cs clock := by
    rw [Relative.resolve, Relative.resolve, Relative.ofText?_trim]
  by_cases hnil : Text.trim cs = []
  · have hnone : Relative.resolve false cs clock = .ok none := by
      apply Relative.resolve_of_none
      rw [Relative.ofText?, hnil]
      rfl
    have hstamp : Iso.stamp? [] = none := rfl
    simp [moment, IsBeyond, hnil, hnone, hstamp]
  · by_cases htext : Relative.ofText? false cs = none
    · have hnone : Relative.resolve false cs clock = .ok none := Relative.resolve_of_none htext
      cases hs : Iso.stamp? (Text.trim cs) with
      | none => simp [moment, IsBeyond, hnil, hresolve, hnone, hs]
      | some s =>
        simp [moment, IsBeyond, hnil, hresolve, hnone, hs, Outcome.bind_eq_error,
          Stamp.moment_eq_error]
    · have hbeyond : ¬ IsBeyond cs := fun h => htext (h.ofText? false)
      simp only [moment, List.isEmpty_iff, if_neg hnil, hresolve, hbeyond, and_false, or_false]
      cases hr : Relative.resolve false cs clock with
      | error e => simp
      | ok span =>
        cases span with
        | some span => simp
        | none => exact absurd (Relative.resolve_eq_ok_none.1 hr) htext

/-- A typed moment that is evaluated in an inner year is a fault exactly when it lies outside the
calendar. -/
theorem moment_eq_error (hnow : clock.now = .ok now) (hinner : now.date.IsInner) :
    moment cs clock = .error fault ↔ fault = .outOfRange ∧ IsBeyond cs := by
  rw [moment_eq_error_iff, or_iff_right (Relative.resolve_ne_error hnow hinner _)]

theorem span_eq_error (hnow : clock.now = .ok now) (hinner : now.date.IsInner) :
    span cs clock = .error fault ↔ fault = .outOfRange ∧ IsBeyond cs := by
  unfold span
  cases hr : Relative.resolve true cs clock with
  | error e => exact absurd hr (Relative.resolve_ne_error hnow hinner e)
  | ok days =>
    cases days with
    | some days =>
      have hbeyond : ¬ IsBeyond cs := by
        intro h
        rw [Relative.resolve_of_none (h.ofText? true)] at hr
        cases hr
      simp [hbeyond]
    | none =>
      rw [Outcome.ok_bind, Outcome.bind_eq_error, moment_eq_error hnow hinner, or_iff_left]
      rintro ⟨m, -, h⟩
      cases m <;> cases h

end Written

end Cuaderno
