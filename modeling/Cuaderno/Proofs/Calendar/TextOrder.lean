import Cuaderno.Proofs.Calendar.IsoText
import Cuaderno.Proofs.Calendar.RelativeDays
import Mathlib.Data.List.Lex

/-!
# Dates and their texts in order

Texts are ordered by their first different character. The parts of a standard text are padded to a
width of their own and stand with the year in front, so that the texts of dates are in the order of
the dates (`Date.isoText_lt_iff`), and the texts of months in the order of the months
(`Date.monthText_lt_iff`).
-/

namespace Cuaderno

namespace Text

theorem digitChar_lt_iff : ∀ a < 10, ∀ b < 10, digitChar a < digitChar b ↔ a < b := by
  decide

/-- Of texts whose first parts have one length, the first parts decide if they differ. -/
theorem append_lt_append_iff {as bs cs ds : List Char} (h : as.length = bs.length) :
    as ++ cs < bs ++ ds ↔ as < bs ∨ as = bs ∧ cs < ds := by
  induction as generalizing bs with
  | nil =>
    obtain rfl := List.length_eq_zero_iff.1 h.symm
    simp
  | cons a as ih =>
    cases bs with
    | nil => cases h
    | cons b bs =>
      simp only [List.cons_append, List.cons_lt_cons_iff, ih (Nat.succ.inj h), List.cons.injEq]
      tauto

private theorem paddedText_inj (w : Nat) {m n : Nat} (hm : m < 10 ^ (w + 1))
    (hn : n < 10 ^ (w + 1)) :
    paddedText (w + 1) m = paddedText (w + 1) n ↔ m = n := by
  constructor
  · intro h
    have hread := Iso.number?_paddedText w m hm
    rw [h, Iso.number?_paddedText w n hn] at hread
    exact (Option.some.inj hread).symm
  · rintro rfl
    rfl

/-- Numbers that are padded to one width are ordered as texts as they are as numbers. -/
theorem paddedText_lt_iff (w : Nat) {m n : Nat} (hm : m < 10 ^ (w + 1)) (hn : n < 10 ^ (w + 1)) :
    paddedText (w + 1) m < paddedText (w + 1) n ↔ m < n := by
  induction w generalizing m n with
  | zero =>
    rw [paddedText_one (by omega), paddedText_one (by omega), List.cons_lt_cons_iff,
      digitChar_lt_iff m (by omega) n (by omega)]
    simp
  | succ w ih =>
    have hm' : m / 10 < 10 ^ (w + 1) := by
      rw [Nat.pow_succ] at hm
      omega
    have hn' : n / 10 < 10 ^ (w + 1) := by
      rw [Nat.pow_succ] at hn
      omega
    -- the digits before the last one decide, unless they are the same
    rw [paddedText_succ, paddedText_succ,
      append_lt_append_iff (by rw [length_paddedText w _ hm', length_paddedText w _ hn']),
      ih hm' hn', paddedText_inj w hm' hn', List.cons_lt_cons_iff,
      digitChar_lt_iff _ (Nat.mod_lt _ (by decide)) _ (Nat.mod_lt _ (by decide))]
    simp only [List.not_lt_nil, and_false, or_false]
    omega

end Text

namespace Date

open Cuaderno.Text (append_lt_append_iff length_paddedText paddedText paddedText_inj
  paddedText_lt_iff)

variable {d e : Date}

/-- The text of the month of a date: the year and the month. -/
def monthText (d : Date) : List Char := paddedText 4 d.year ++ '-' :: paddedText 2 d.month

private theorem isoText_eq (d : Date) : d.isoText = d.monthText ++ '-' :: paddedText 2 d.day := by
  simp [isoText, monthText]

private theorem year_lt (d : Date) : d.year < 10 ^ 4 := by
  have := d.valid.1.2
  omega

private theorem month_lt (d : Date) : d.month < 10 ^ 2 := by
  have := d.valid.2.1.2
  omega

private theorem length_monthText (d : Date) : d.monthText.length = 7 := by
  rw [monthText, List.length_append, List.length_cons, length_paddedText 3 _ d.year_lt,
    length_paddedText 1 _ d.month_lt]

/-- The text of a month is the text of each of its days without the day. -/
theorem take_isoText (d : Date) : d.isoText.take 7 = d.monthText := by
  rw [isoText_eq, List.take_left' d.length_monthText]

theorem monthNumber_lt_iff :
    d.monthNumber < e.monthNumber ↔ d.year < e.year ∨ d.year = e.year ∧ d.month < e.month := by
  have hd := d.valid.2.1
  have he := e.valid.2.1
  unfold monthNumber
  omega

theorem monthText_lt_iff : d.monthText < e.monthText ↔ d.monthNumber < e.monthNumber := by
  rw [monthText, monthText, append_lt_append_iff
      (by rw [length_paddedText 3 _ d.year_lt, length_paddedText 3 _ e.year_lt]),
    paddedText_lt_iff 3 d.year_lt e.year_lt, paddedText_inj 3 d.year_lt e.year_lt,
    List.cons_lt_cons_iff, paddedText_lt_iff 1 d.month_lt e.month_lt, monthNumber_lt_iff]
  simp

private theorem monthText_inj : d.monthText = e.monthText ↔ d.monthNumber = e.monthNumber := by
  constructor
  · intro h
    have hlt : ¬ d.monthNumber < e.monthNumber := by
      rw [← monthText_lt_iff, h]
      exact List.lt_irrefl _
    have hgt : ¬ e.monthNumber < d.monthNumber := by
      rw [← monthText_lt_iff, h]
      exact List.lt_irrefl _
    omega
  · intro h
    obtain ⟨hyear, hmonth⟩ := monthNumber_eq_monthNumber.1 h
    rw [monthText, monthText, hyear, hmonth]

theorem ordinal_lt_iff : d.ordinal < e.ordinal ↔
    d.monthNumber < e.monthNumber ∨ d.monthNumber = e.monthNumber ∧ d.day < e.day := by
  have hbehind {d e : Date} (h : d.monthNumber < e.monthNumber) : d.ordinal < e.ordinal := by
    have hday := d.day_le_daysOfMonth
    have hfirst := e.valid.2.2.1
    have hsucc := daysBeforeMonth_succ d.le_monthNumber
    have hmono := daysBeforeMonth_mono (n := d.monthNumber + 1)
      (Nat.le_succ_of_le d.le_monthNumber) h
    rw [ordinal_eq, ordinal_eq]
    omega
  rcases Nat.lt_trichotomy d.monthNumber e.monthNumber with hlt | heq | hgt
  · have := hbehind hlt
    omega
  · rw [ordinal_eq, ordinal_eq, heq]
    omega
  · have := hbehind hgt
    omega

/-- The texts of dates are in the order of the dates. -/
theorem isoText_lt_iff : d.isoText < e.isoText ↔ d.ordinal < e.ordinal := by
  rw [isoText_eq, isoText_eq, append_lt_append_iff
      (by rw [length_monthText, length_monthText]), monthText_lt_iff, monthText_inj,
    List.cons_lt_cons_iff, paddedText_lt_iff 1 (Iso.day_lt d) (Iso.day_lt e), ordinal_lt_iff]
  simp

end Date

end Cuaderno
