import Cuaderno.Calendar.Relative
import Cuaderno.Proofs.Calendar.Ordinal
import Cuaderno.Proofs.Outcome

/-!
# The days that a relative date names

A relative date is meant in the terms of a calendar on the wall: the day before or the day behind,
the week from Sunday to Saturday, the month of a year (`Relative.Names`). The code counts days. Both
agree because the months stand in a row, each with its days: a date lies in a month exactly when its
number lies among the days of that month (`Date.monthNumber_eq_iff`).

The main theorem, `Relative.resolve_spec`, says which moments lie in the span of each relative date,
as long as no day that it names leaves the calendar.
-/

namespace Cuaderno

namespace Date

/-! ## Months in a row -/

/-- The number of the month of a date, all months of all years being counted. -/
def monthNumber (d : Date) : Nat := d.year * 12 + (d.month - 1)

def daysBeforeMonth (n : Nat) : Nat := daysBeforeYear (n / 12) + daysThroughMonth (n / 12) (n % 12)

def daysOfMonth (n : Nat) : Nat := daysInMonth (n / 12) (n % 12 + 1)

private theorem daysOfMonth_bounds (n : Nat) : 28 ≤ daysOfMonth n ∧ daysOfMonth n ≤ 31 := by
  refine ⟨?_, daysInMonth_le _ _⟩
  unfold daysOfMonth daysInMonth
  split_ifs <;> omega

theorem daysBeforeMonth_succ {n : Nat} (h : 12 ≤ n) :
    daysBeforeMonth (n + 1) = daysBeforeMonth n + daysOfMonth n := by
  by_cases hlast : n % 12 = 11
  -- behind the last month of a year comes the first one of the next
  · have hyear : (n + 1) / 12 = n / 12 + 1 := by omega
    have hmonth : (n + 1) % 12 = 0 := by omega
    have hdays := daysThroughMonth_twelve (n / 12)
    rw [daysThroughMonth] at hdays
    rw [daysBeforeMonth, daysBeforeMonth, daysOfMonth, hyear, hmonth, hlast,
      daysBeforeYear_succ (by omega), ← hdays, daysThroughMonth]
    omega
  · have hyear : (n + 1) / 12 = n / 12 := by omega
    have hmonth : (n + 1) % 12 = n % 12 + 1 := by omega
    rw [daysBeforeMonth, daysBeforeMonth, daysOfMonth, hyear, hmonth, daysThroughMonth]
    omega

theorem daysBeforeMonth_mono {n later : Nat} (hpos : 12 ≤ n) (h : n ≤ later) :
    daysBeforeMonth n ≤ daysBeforeMonth later := by
  induction later, h using Nat.le_induction with
  | base => exact Nat.le_refl _
  | succ later hle ih =>
    rw [daysBeforeMonth_succ (hpos.trans hle)]
    exact ih.trans (Nat.le_add_right ..)

private theorem monthNumber_div (d : Date) : d.monthNumber / 12 = d.year := by
  have := d.valid.2.1
  unfold monthNumber
  omega

private theorem monthNumber_mod (d : Date) : d.monthNumber % 12 = d.month - 1 := by
  have := d.valid.2.1
  unfold monthNumber
  omega

theorem le_monthNumber (d : Date) : 12 ≤ d.monthNumber := by
  have := d.valid.1.1
  unfold monthNumber
  omega

theorem ordinal_eq (d : Date) : d.ordinal = daysBeforeMonth d.monthNumber + d.day := by
  rw [ordinal, daysBeforeMonth, monthNumber_div, monthNumber_mod]

theorem day_le_daysOfMonth (d : Date) : d.day ≤ daysOfMonth d.monthNumber := by
  have hmonth : d.month - 1 + 1 = d.month := by
    have := d.valid.2.1
    omega
  rw [daysOfMonth, monthNumber_div, monthNumber_mod, hmonth]
  exact d.valid.2.2.2

/-- A date lies in a month exactly when its number is one of the days of that month. -/
theorem monthNumber_eq_iff {d : Date} {n : Nat} (h : 12 ≤ n) :
    d.monthNumber = n ↔ daysBeforeMonth n < d.ordinal ∧ d.ordinal ≤ daysBeforeMonth (n + 1) := by
  have hday := d.valid.2.2.1
  have hend := d.day_le_daysOfMonth
  have hsucc := daysBeforeMonth_succ d.le_monthNumber
  rw [ordinal_eq]
  constructor
  · rintro rfl
    omega
  · rintro ⟨hfrom, hto⟩
    -- in an earlier month the date would come before the first day, and in a later one behind it
    rcases Nat.lt_trichotomy d.monthNumber n with hlt | heq | hgt
    · have := daysBeforeMonth_mono (n := d.monthNumber + 1) (Nat.le_succ_of_le d.le_monthNumber) hlt
      omega
    · exact heq
    · have := daysBeforeMonth_mono (n := n + 1) (Nat.le_succ_of_le h) hgt
      omega

theorem eq_of_monthNumber {d e : Date} (hmonth : d.monthNumber = e.monthNumber)
    (hday : d.day = e.day) : d = e := by
  have hd := d.valid.2.1
  have he := e.valid.2.1
  unfold monthNumber at hmonth
  cases d
  cases e
  simp only [mk.injEq] at *
  omega

theorem ordinal_injective {d e : Date} (h : d.ordinal = e.ordinal) : d = e := by
  have hmonth : e.monthNumber = d.monthNumber := by
    rw [monthNumber_eq_iff d.le_monthNumber, ← h]
    exact (monthNumber_eq_iff d.le_monthNumber).1 rfl
  rw [ordinal_eq, ordinal_eq, hmonth] at h
  exact eq_of_monthNumber hmonth.symm (by omega)

/-! ## The next day -/

/-- From a day to the next one, on a calendar: within a month, from the last day of a month to the
first of the next, and from one year to the next. -/
inductive Next : Date → Date → Prop
  | day {d e : Date} (year : e.year = d.year) (month : e.month = d.month)
      (day : e.day = d.day + 1) : Next d e
  | month {d e : Date} (last : d.day = daysInMonth d.year d.month) (year : e.year = d.year)
      (month : e.month = d.month + 1) (day : e.day = 1) : Next d e
  | year {d e : Date} (last : d.month = 12 ∧ d.day = 31) (year : e.year = d.year + 1)
      (month : e.month = 1) (day : e.day = 1) : Next d e

theorem Next.ordinal {d e : Date} (h : Next d e) : e.ordinal = d.ordinal + 1 := by
  have hd := d.valid.2.1
  rw [ordinal_eq, ordinal_eq]
  have hsucc := daysBeforeMonth_succ d.le_monthNumber
  cases h with
  | day year month day =>
    have hmonth : e.monthNumber = d.monthNumber := by rw [monthNumber, monthNumber, year, month]
    rw [hmonth, day]
    rfl
  | month last year month day =>
    have hmonth : e.monthNumber = d.monthNumber + 1 := by
      rw [monthNumber, monthNumber, year, month]
      omega
    have hdays : daysOfMonth d.monthNumber = d.day := by
      rw [daysOfMonth, monthNumber_div, monthNumber_mod, last,
        show d.month - 1 + 1 = d.month by omega]
    rw [hmonth, hsucc, hdays, day]
  | year last year month day =>
    have hmonth : e.monthNumber = d.monthNumber + 1 := by
      rw [monthNumber, monthNumber, year, month, last.1]
      omega
    have hdays : daysOfMonth d.monthNumber = d.day := by
      rw [daysOfMonth, monthNumber_div, monthNumber_mod, last.1, last.2]
      rfl
    rw [hmonth, hsucc, hdays, day]

private theorem exists_next {d : Date} (h : d.ordinal < lastOrdinal) : ∃ e, Next d e := by
  obtain ⟨⟨hyear, hyears⟩, ⟨hmonth, hmonths⟩, hday, hdays⟩ := d.valid
  have hone (year month : Nat) : 1 ≤ daysInMonth year month := by
    unfold daysInMonth
    split_ifs <;> omega
  by_cases hinner : d.day < daysInMonth d.year d.month
  · exact ⟨⟨d.year, d.month, d.day + 1, d.valid.1, d.valid.2.1, by omega, hinner⟩,
      .day rfl rfl rfl⟩
  · have hlast : d.day = daysInMonth d.year d.month := by omega
    by_cases hdecember : d.month = 12
    · have hthirtyOne : d.day = 31 := by
        rw [hlast, hdecember]
        rfl
      have hnines : d.year ≠ 9999 := by
        intro hnines
        rw [Date.ordinal, hdecember, hthirtyOne, hnines] at h
        exact absurd h (by decide +kernel)
      exact ⟨⟨d.year + 1, 1, 1, by omega, by omega, Nat.le_refl _, hone _ _⟩,
        .year ⟨hdecember, hthirtyOne⟩ rfl rfl rfl⟩
    · exact ⟨⟨d.year, d.month + 1, 1, d.valid.1, by omega, Nat.le_refl _, hone _ _⟩,
        .month hlast rfl rfl rfl⟩

theorem next_iff {d e : Date} : Next d e ↔ e.ordinal = d.ordinal + 1 := by
  constructor
  · exact Next.ordinal
  · intro h
    have hlast := e.ordinal_le_last
    obtain ⟨f, hf⟩ := exists_next (d := d) (by omega)
    rw [ordinal_injective (h.trans hf.ordinal.symm)]
    exact hf

example : (⟨2024, 5, 15, by decide⟩ : Date).weekday = 2 := by decide +kernel

/-! ## Weeks -/

/-- Whether a date lies in the week, from Sunday to Saturday, that a Sunday opens. -/
structure InWeek (sunday d : Date) : Prop where
  opens : sunday.weekday = 6
  first : sunday.ordinal ≤ d.ordinal
  last : d.ordinal ≤ sunday.ordinal + 6

private theorem ordinal_of_weekday {sunday : Date} (h : sunday.weekday = 6) :
    sunday.ordinal % 7 = 0 := by
  unfold weekday at h
  omega

theorem InWeek.ordinal {sunday d : Date} (h : InWeek sunday d) :
    sunday.ordinal = d.ordinal - d.ordinal % 7 := by
  have := ordinal_of_weekday h.opens
  have := h.first
  have := h.last
  omega

theorem inWeek_iff {sunday d : Date} : InWeek sunday d ↔
    sunday.ordinal % 7 = 0 ∧ sunday.ordinal ≤ d.ordinal ∧ d.ordinal ≤ sunday.ordinal + 6 := by
  constructor
  · intro h
    exact ⟨ordinal_of_weekday h.opens, h.first, h.last⟩
  · rintro ⟨hopens, hfirst, hlast⟩
    refine ⟨?_, hfirst, hlast⟩
    unfold weekday
    omega

/-- The week of a date starts in the calendar, unless it is one of the first six days. -/
theorem weekStart?_eq_some {d : Date} (h : 7 ≤ d.ordinal) :
    ∃ sunday, d.weekStart? = some sunday ∧ InWeek sunday d := by
  have hlast := d.ordinal_le_last
  have hback : (d.weekday + 1) % 7 = d.ordinal % 7 := by
    unfold weekday
    omega
  obtain ⟨sunday, hsunday, hordinal⟩ :=
    addDays?_eq_some d (-((d.ordinal % 7 : Nat) : Int)) (by omega) (by omega)
  refine ⟨sunday, by rw [weekStart?, hback, hsunday], inWeek_iff.2 ?_⟩
  omega

/-- The first six days of the calendar lie in a week that starts before it. -/
theorem weekStart?_eq_none {d : Date} : d.weekStart? = none ↔ d.ordinal < 7 := by
  constructor
  · intro hnone
    by_contra hle
    obtain ⟨sunday, hsunday, -⟩ := weekStart?_eq_some (Nat.le_of_not_lt hle)
    rw [hnone] at hsunday
    cases hsunday
  · intro hearly
    apply ofOrdinal?_eq_none
    left
    unfold weekday
    omega

/-! ## Months -/

theorem monthNumber_eq_monthNumber {d e : Date} :
    d.monthNumber = e.monthNumber ↔ d.year = e.year ∧ d.month = e.month := by
  have hd := d.valid.2.1
  have he := e.valid.2.1
  unfold monthNumber
  omega

private theorem monthNumber_succ_eq {d e : Date} : d.monthNumber + 1 = e.monthNumber ↔
    d.year = e.year ∧ d.month + 1 = e.month ∨
      d.year + 1 = e.year ∧ d.month = 12 ∧ e.month = 1 := by
  have hd := d.valid.2.1
  have he := e.valid.2.1
  unfold monthNumber
  omega

private theorem monthStart_ordinal (d : Date) :
    d.monthStart.ordinal = daysBeforeMonth d.monthNumber + 1 := ordinal_eq d.monthStart

end Date

/-! ## Moments by their date -/

namespace Moment

variable {m : Moment} {d : Date}

theorem lt_startOf_iff : m < startOf d ↔ m.date.ordinal < d.ordinal := by
  have := m.time.lt
  simp only [lt_def, startOf, instant, TimeOfDay.midnight, microsPerDay] at *
  omega

theorem startOf_le_iff : startOf d ≤ m ↔ d.ordinal ≤ m.date.ordinal := by
  have := m.time.lt
  simp only [le_def, startOf, instant, TimeOfDay.midnight, microsPerDay] at *
  omega

theorem le_endOf_iff : m ≤ endOf d ↔ m.date.ordinal ≤ d.ordinal := by
  have := m.time.lt
  simp only [le_def, endOf, instant, TimeOfDay.last, microsPerDay] at *
  omega

end Moment

/-! ## What a relative date means -/

namespace Relative

/-- Whether a relative date, seen from one day, names another. -/
def Names (r : Relative) (today day : Date) : Prop :=
  match r with
  | .today => day = today
  | .yesterday => day.Next today
  | .tomorrow => today.Next day
  | .thisWeek => ∃ sunday, Date.InWeek sunday today ∧ Date.InWeek sunday day
  | .lastWeek => ∃ sunday before, Date.InWeek sunday today ∧ Date.InWeek before day ∧
      before.ordinal + 7 = sunday.ordinal
  | .thisMonth => day.year = today.year ∧ day.month = today.month
  | .lastMonth => day.year = today.year ∧ day.month + 1 = today.month ∨
      day.year + 1 = today.year ∧ day.month = 12 ∧ today.month = 1

/-- The days that a relative date names are those from a first one to a last one. -/
structure Covers (r : Relative) (today first last : Date) : Prop where
  span : r.span? today = some (Span.ofDays first last)
  names : ∀ day, r.Names today day ↔ first.ordinal ≤ day.ordinal ∧ day.ordinal ≤ last.ordinal

variable {r : Relative} {today first last : Date}

theorem Covers.unique (h : Covers r today first last) {first' last' : Date}
    (h' : Covers r today first' last') : first = first' ∧ last = last' := by
  have hspan := h.span
  rw [h'.span] at hspan
  cases hspan
  exact ⟨rfl, rfl⟩

theorem Covers.contains_iff (h : Covers r today first last) (m : Moment) :
    (Span.ofDays first last).contains m = true ↔ r.Names today m.date := by
  rw [Span.contains_ofDays_iff, h.names]

theorem covers_today : Covers .today today today today := by
  refine ⟨rfl, fun day => ?_⟩
  constructor
  · rintro rfl
    exact ⟨Nat.le_refl _, Nat.le_refl _⟩
  · rintro ⟨hfrom, hto⟩
    exact Date.ordinal_injective (Nat.le_antisymm hto hfrom)

theorem covers_yesterday (h : 32 ≤ today.ordinal) : ∃ day, Covers .yesterday today day day := by
  have hlast := today.ordinal_le_last
  obtain ⟨before, hbefore, hordinal⟩ := Date.addDays?_eq_some today (-1) (by omega) (by omega)
  refine ⟨before, by rw [span?, hbefore]; rfl, fun day => ?_⟩
  rw [Names, Date.next_iff]
  omega

theorem covers_tomorrow (h : today.ordinal + 31 ≤ Date.lastOrdinal) :
    ∃ day, Covers .tomorrow today day day := by
  obtain ⟨behind, hbehind, hordinal⟩ := Date.addDays?_eq_some today 1 (by omega) (by omega)
  refine ⟨behind, by rw [span?, hbehind]; rfl, fun day => ?_⟩
  rw [Names, Date.next_iff]
  omega

private theorem weekFrom?_eq_some (start : Date) (h : start.ordinal + 6 ≤ Date.lastOrdinal) :
    ∃ stop, weekFrom? start = some (Span.ofDays start stop) ∧ stop.ordinal = start.ordinal + 6 := by
  obtain ⟨stop, hstop, hordinal⟩ := Date.addDays?_eq_some start 6 (by omega) (by omega)
  exact ⟨stop, by rw [weekFrom?, hstop]; rfl, by omega⟩

theorem covers_thisWeek (hfirst : 32 ≤ today.ordinal)
    (hlast : today.ordinal + 31 ≤ Date.lastOrdinal) :
    ∃ first last, Covers .thisWeek today first last ∧ Date.InWeek first today := by
  obtain ⟨sunday, hsunday, hweek⟩ := Date.weekStart?_eq_some (d := today) (by omega)
  have hordinal := hweek.ordinal
  obtain ⟨saturday, hspan, hsaturday⟩ := weekFrom?_eq_some sunday (by omega)
  refine ⟨sunday, saturday, ⟨?_, fun day => ?_⟩, hweek⟩
  · rw [span?, hsunday]
    exact hspan
  · constructor
    · rintro ⟨other, hother, hday⟩
      have := hother.ordinal
      have := hday.first
      have := hday.last
      omega
    · rintro ⟨hfrom, hto⟩
      exact ⟨sunday, hweek, hweek.opens, hfrom, by omega⟩

/-- The last week ends on the day before the Sunday that opens this week. -/
theorem covers_lastWeek (hfirst : 32 ≤ today.ordinal)
    (hlast : today.ordinal + 31 ≤ Date.lastOrdinal) {sunday : Date}
    (hweek : Date.InWeek sunday today) :
    ∃ first last, Covers .lastWeek today first last ∧ last.ordinal + 1 = sunday.ordinal := by
  obtain ⟨own, hown, hownWeek⟩ := Date.weekStart?_eq_some (d := today) (by omega)
  obtain rfl : own = sunday :=
    Date.ordinal_injective (hownWeek.ordinal.trans hweek.ordinal.symm)
  have hordinal := hweek.ordinal
  obtain ⟨before, hbefore, hback⟩ := Date.addDays?_eq_some own (-7) (by omega) (by omega)
  obtain ⟨saturday, hspan, hsaturday⟩ := weekFrom?_eq_some before (by omega)
  refine ⟨before, saturday, ⟨?_, fun day => ?_⟩, by omega⟩
  · rw [span?, hown, Option.bind_eq_bind, Option.bind_some, hbefore]
    exact hspan
  · constructor
    · rintro ⟨sunday, opening, hsunday, hday, hseven⟩
      have := hsunday.ordinal
      have := hday.first
      have := hday.last
      omega
    · rintro ⟨hfrom, hto⟩
      refine ⟨own, before, hweek, Date.inWeek_iff.2 ?_, by omega⟩
      have := Date.ordinal_of_weekday hweek.opens
      omega

/-- The 32nd day behind the first day of a month lies in the next month. -/
theorem monthNumber_behind {behind : Date}
    (h : behind.ordinal = today.monthStart.ordinal + 32) :
    behind.monthNumber = today.monthNumber + 1 := by
  have hpos := today.le_monthNumber
  have hthis := Date.daysOfMonth_bounds today.monthNumber
  have hnext := Date.daysOfMonth_bounds (today.monthNumber + 1)
  have hsucc := Date.daysBeforeMonth_succ hpos
  rw [Date.monthNumber_eq_iff (by omega), Date.daysBeforeMonth_succ (n := today.monthNumber + 1)
    (by omega), h, Date.monthStart_ordinal]
  omega

theorem covers_thisMonth (hlast : today.ordinal + 31 ≤ Date.lastOrdinal) :
    ∃ last, Covers .thisMonth today today.monthStart last := by
  have hpos := today.le_monthNumber
  have hstart := today.monthStart_ordinal
  -- The last month but one of the calendar starts 60 days before its end.
  have hnovember : today.monthNumber ≤ 9999 * 12 + 10 := by
    by_contra hdecember
    have hdays := Date.daysBeforeMonth_mono (n := 9999 * 12 + 11) (by omega)
      (show 9999 * 12 + 11 ≤ today.monthNumber by omega)
    have hend : Date.daysBeforeMonth (9999 * 12 + 11) + 31 = Date.lastOrdinal := by decide +kernel
    have hordinal := today.ordinal_eq
    have hday := today.valid.2.2.1
    omega
  have hbefore := Date.daysBeforeMonth_mono hpos hnovember
  have hend : Date.daysBeforeMonth (9999 * 12 + 10) + 61 = Date.lastOrdinal := by decide +kernel
  obtain ⟨behind, hbehind, hordinal⟩ :=
    Date.addDays?_eq_some today.monthStart 32 (by omega) (by omega)
  have hnumber : behind.monthNumber = today.monthNumber + 1 := monthNumber_behind (by omega)
  have hnext : behind.monthStart.ordinal = Date.daysBeforeMonth (today.monthNumber + 1) + 1 := by
    rw [Date.monthStart_ordinal, hnumber]
  have hnextLast := behind.monthStart.ordinal_le_last
  have hsucc := Date.daysBeforeMonth_succ hpos
  have hdays := Date.daysOfMonth_bounds today.monthNumber
  obtain ⟨last, hl, hlastOrdinal⟩ :=
    Date.addDays?_eq_some behind.monthStart (-1) (by omega) (by omega)
  refine ⟨last, ?_, fun day => ?_⟩
  · simp only [span?, hbehind, hl, Option.bind_eq_bind, Option.bind_some]
    rfl
  · rw [Names, ← Date.monthNumber_eq_monthNumber, Date.monthNumber_eq_iff hpos]
    omega

theorem covers_lastMonth (hfirst : 32 ≤ today.ordinal) :
    ∃ first last, Covers .lastMonth today first last ∧
      last.ordinal + 1 = today.monthStart.ordinal := by
  have hstart := today.monthStart_ordinal
  have hend := today.monthStart.ordinal_le_last
  -- The second month of the calendar is the first one with a month before it.
  have hpos : 13 ≤ today.monthNumber := by
    by_contra hjanuary
    have hmonth : today.monthNumber = 12 := by
      have := today.le_monthNumber
      omega
    have hdays := ((Date.monthNumber_eq_iff (Nat.le_refl 12)).1 hmonth).2
    have hjanuary : Date.daysBeforeMonth (12 + 1) = 31 := by decide
    omega
  obtain ⟨before, hn⟩ : ∃ before, today.monthNumber = before + 1 :=
    ⟨today.monthNumber - 1, by omega⟩
  have hsucc := Date.daysBeforeMonth_succ (n := before) (by omega)
  have hdays := Date.daysOfMonth_bounds before
  rw [hn] at hstart
  obtain ⟨last, hl, hordinal⟩ :=
    Date.addDays?_eq_some today.monthStart (-1) (by omega) (by omega)
  have hnumber : last.monthNumber = before := by
    rw [Date.monthNumber_eq_iff (by omega)]
    omega
  have hlastStart := last.monthStart_ordinal
  rw [hnumber] at hlastStart
  refine ⟨last.monthStart, last, ⟨?_, fun day => ?_⟩, by omega⟩
  · simp only [span?, hl, Option.bind_eq_bind, Option.bind_some]
    rfl
  · have hmonth : day.monthNumber + 1 = today.monthNumber ↔ day.monthNumber = before := by omega
    rw [Names, ← Date.monthNumber_succ_eq, hmonth, Date.monthNumber_eq_iff (by omega)]
    omega

private theorem exists_covers (hfirst : 32 ≤ today.ordinal)
    (hlast : today.ordinal + 31 ≤ Date.lastOrdinal) (r : Relative) :
    ∃ first last, Covers r today first last := by
  cases r with
  | today => exact ⟨today, today, covers_today⟩
  | yesterday =>
    obtain ⟨day, h⟩ := covers_yesterday hfirst
    exact ⟨day, day, h⟩
  | tomorrow =>
    obtain ⟨day, h⟩ := covers_tomorrow hlast
    exact ⟨day, day, h⟩
  | thisWeek =>
    obtain ⟨sunday, saturday, h, -⟩ := covers_thisWeek hfirst hlast
    exact ⟨sunday, saturday, h⟩
  | lastWeek =>
    obtain ⟨sunday, -, -, hsunday⟩ := covers_thisWeek hfirst hlast
    obtain ⟨first, last, h, -⟩ := covers_lastWeek hfirst hlast hsunday
    exact ⟨first, last, h⟩
  | thisMonth =>
    obtain ⟨last, h⟩ := covers_thisMonth hlast
    exact ⟨today.monthStart, last, h⟩
  | lastMonth =>
    obtain ⟨first, last, h, -⟩ := covers_lastMonth hfirst
    exact ⟨first, last, h⟩

/-- Seen from a day of an inner year, every relative date names a span of days. -/
theorem exists_span? (r : Relative) (h : today.IsInner) : ∃ span, r.span? today = some span := by
  obtain ⟨hfirst, hlast⟩ := h.ordinal
  have hfrom : 32 ≤ today.ordinal := by omega
  have hto : today.ordinal + 31 ≤ Date.lastOrdinal := by omega
  obtain ⟨first, last, hcovers⟩ := exists_covers hfrom hto r
  exact ⟨Span.ofDays first last, hcovers.span⟩

/-- Nothing lies between the last week and this week. -/
theorem Covers.lastWeek_succ (hfirst : 32 ≤ today.ordinal)
    (hlast : today.ordinal + 31 ≤ Date.lastOrdinal) (h : Covers .lastWeek today first last)
    {sunday saturday : Date} (hweek : Covers .thisWeek today sunday saturday) :
    last.ordinal + 1 = sunday.ordinal := by
  obtain ⟨own, _, hown, hsunday⟩ := covers_thisWeek hfirst hlast
  obtain ⟨_, before, hbefore, hsucc⟩ := covers_lastWeek hfirst hlast hsunday
  rw [(h.unique hbefore).2, (hweek.unique hown).1, hsucc]

/-- Nothing lies between the last month and this month. -/
theorem Covers.lastMonth_succ (hfirst : 32 ≤ today.ordinal)
    (hlast : today.ordinal + 31 ≤ Date.lastOrdinal) (h : Covers .lastMonth today first last)
    {start stop : Date} (hmonth : Covers .thisMonth today start stop) :
    last.ordinal + 1 = start.ordinal := by
  obtain ⟨_, hown⟩ := covers_thisMonth hlast
  obtain ⟨_, before, hbefore, hsucc⟩ := covers_lastMonth hfirst
  rw [(h.unique hbefore).2, (hmonth.unique hown).1, hsucc]

/-! ## Texts -/

private theorem ofKey?_word (r : Relative) : ofKey? r.word = some r := by
  cases r <;> decide

/-- The sign and a word with the right key are a relative date, with blanks around them or not. -/
theorem ofText?_of_word {signRequired : Bool} {cs word : List Char}
    (hcs : Text.trim cs = '@' :: word) (hword : Text.key (String.ofList word) = r.word) :
    ofText? signRequired cs = some r := by
  rw [Text.key, String.toList_ofList] at hword
  have hkey : ofKey? (String.ofList (Text.fold word)) = some r := by rw [hword, ofKey?_word]
  rw [ofText?, hcs]
  exact hkey

private theorem instant_endOf_succ {d e : Date} (h : d.ordinal + 1 = e.ordinal) :
    (Moment.endOf d).instant + 1 = (Moment.startOf e).instant := by
  simp only [Moment.endOf, Moment.startOf, Moment.instant, TimeOfDay.last, TimeOfDay.midnight,
    microsPerDay]
  omega

/-- Seen from any moment from 1 February of the first year to 30 November of the last, each relative
date has the span of exactly the moments whose date it names: from the start of a day to the last
microsecond of a day, the last week and the last month up to the start of this one. -/
theorem resolve_spec {now : Moment} (hfirst : Moment.startOf ⟨1, 2, 1, by decide⟩ ≤ now)
    (hlast : now ≤ Moment.endOf ⟨9999, 11, 30, by decide⟩) (wall : Moment) :
    ∃ span : Relative → Span,
      (∀ r cs word, Text.trim cs = '@' :: word → Text.key (String.ofList word) = r.word →
        ∀ signRequired,
          resolve signRequired cs ⟨some ⟨now, none⟩, wall⟩ = .ok (some (span r))) ∧
      (∀ r m, (span r).contains m = true ↔ r.Names now.date m.date) ∧
      (∀ r, TimeOfDay.of? 0 0 0 0 = some (span r).start.time ∧
        TimeOfDay.of? 23 59 59 999999 = some (span r).stop.time) ∧
      (span .lastWeek).stop.instant + 1 = (span .thisWeek).start.instant ∧
      (span .lastMonth).stop.instant + 1 = (span .thisMonth).start.instant := by
  have hfrom : 32 ≤ now.date.ordinal := by
    have hday : Date.ordinal ⟨1, 2, 1, by decide⟩ = 32 := by decide
    rwa [Moment.startOf_le_iff, hday] at hfirst
  have hto : now.date.ordinal + 31 ≤ Date.lastOrdinal := by
    have hday : Date.ordinal ⟨9999, 11, 30, by decide⟩ + 31 = Date.lastOrdinal := by
      decide +kernel
    rw [Moment.le_endOf_iff] at hlast
    omega
  have hmidnight : TimeOfDay.of? 0 0 0 0 = some .midnight := by decide
  have hmicrosecond : TimeOfDay.of? 23 59 59 999999 = some .last := by decide
  choose first last hcovers using exists_covers hfrom hto
  refine ⟨fun r => Span.ofDays (first r) (last r), ?_, fun r m => (hcovers r).contains_iff m,
    fun r => ⟨hmidnight, hmicrosecond⟩,
    instant_endOf_succ ((hcovers .lastWeek).lastWeek_succ hfrom hto (hcovers .thisWeek)),
    instant_endOf_succ ((hcovers .lastMonth).lastMonth_succ hfrom hto (hcovers .thisMonth))⟩
  intro r cs word hcs hword signRequired
  have hnow : Clock.now ⟨some ⟨now, none⟩, wall⟩ = .ok now := rfl
  rw [resolve, ofText?_of_word hcs hword]
  simp only [hnow, Outcome.ok_bind, (hcovers r).span, Outcome.pure_eq_ok]

/-- On 1 March 2024, last month ends with the leap day. -/
theorem resolve_spec_leapDay : ∃ span,
    resolve true " @Mes_Pasado".toList ⟨some ⟨.startOf ⟨2024, 3, 1, by decide⟩, none⟩, .first⟩ =
        .ok (some span) ∧
      span.contains (.endOf ⟨2024, 2, 29, by decide⟩) = true ∧
      span.contains (.startOf ⟨2024, 3, 1, by decide⟩) = false := by
  obtain ⟨span, htext, hnames, -⟩ := @resolve_spec (.startOf ⟨2024, 3, 1, by decide⟩)
    (by decide +kernel) (by decide +kernel) .first
  refine ⟨span .lastMonth, ?_, (hnames _ _).2 (.inl ⟨rfl, rfl⟩), ?_⟩
  · apply htext .lastMonth _ "Mes_Pasado".toList
    · decide +kernel
    · decide +kernel
  · rw [Bool.eq_false_iff, ne_eq, hnames]
    rintro (⟨-, hmonth⟩ | ⟨-, hmonth, -⟩)
    · cases hmonth
    · cases hmonth

end Relative

end Cuaderno
