import Cuaderno.Calendar.Date
import Mathlib.Order.Monotone.Basic
import Mathlib.Algebra.Order.Group.Nat
import Mathlib.Data.Nat.Basic

/-!
# Days by their number

Every number from 1 to that of the last day is the number of exactly one kind of day: the year that
`yearAfter` finds is the one whose days it lies among, and so is the month. So moving by some days
leaves the calendar only past its ends (`addDays?_eq_some`).
-/

namespace Cuaderno

namespace Date

def daysInYear (year : Nat) : Nat := if isLeapYear year then 366 else 365

theorem daysBeforeYear_succ {year : Nat} (h : 1 ≤ year) :
    daysBeforeYear (year + 1) = daysBeforeYear year + daysInYear year := by
  obtain ⟨before, rfl⟩ : ∃ before, year = before + 1 := ⟨year - 1, by omega⟩
  -- a leap day is a multiple of four that the multiples of a hundred and of four hundred correct
  simp only [daysBeforeYear, daysInYear, isLeapYear, Nat.add_sub_cancel, Nat.succ_div,
    Nat.dvd_iff_mod_eq_zero, Bool.and_eq_true, Bool.or_eq_true, decide_eq_true_eq]
  split_ifs <;> omega

theorem daysBeforeYear_mono {year later : Nat} (h : year ≤ later) :
    daysBeforeYear year ≤ daysBeforeYear later := by
  refine monotone_nat_of_le_succ (fun year => ?_) h
  cases year with
  | zero => exact Nat.le_refl _
  | succ year =>
    rw [daysBeforeYear_succ (Nat.le_add_left ..)]
    exact Nat.le_add_right ..

theorem daysBeforeYear_lastYear : daysBeforeYear 10000 = lastOrdinal := by
  decide

/-- The calendar repeats itself after 400 years. -/
theorem daysBeforeYear_add_cycles {year : Nat} (h : 1 ≤ year) (cycles : Nat) :
    daysBeforeYear (cycles * 400 + year) = cycles * 146097 + daysBeforeYear year := by
  unfold daysBeforeYear
  omega

/-- The guess within a cycle misses the year by one at most. -/
theorem daysBeforeYear_guess (inCycle : Nat) :
    daysBeforeYear (inCycle * 400 / 146097) ≤ inCycle ∧
      inCycle < daysBeforeYear (inCycle * 400 / 146097 + 3) := by
  unfold daysBeforeYear
  omega

/-- The year of a day is the one among whose days it lies. -/
theorem yearAfter_spec (days : Nat) :
    ∃ year : Nat, yearAfter days = year ∧ 1 ≤ year ∧
      daysBeforeYear year ≤ days ∧ days < daysBeforeYear (year + 1) := by
  have hguess := daysBeforeYear_guess (days % 146097)
  have hcycle : ((days : Int) % 146097).toNat = days % 146097 := by omega
  have hcycles : (days : Int) / 146097 = (days / 146097 : Nat) := by omega
  have hone : daysBeforeYear 1 = 0 := rfl
  -- the year within the cycle is settled first, and then moved by whole cycles
  have hinner : ∃ year, (if days % 146097 < daysBeforeYear (days % 146097 * 400 / 146097 + 1) then
        days % 146097 * 400 / 146097 + 1 - 1
      else if daysBeforeYear (days % 146097 * 400 / 146097 + 1 + 1) ≤ days % 146097 then
        days % 146097 * 400 / 146097 + 1 + 1
      else days % 146097 * 400 / 146097 + 1) = year ∧ 1 ≤ year ∧
      daysBeforeYear year ≤ days % 146097 ∧ days % 146097 < daysBeforeYear (year + 1) := by
    generalize days % 146097 * 400 / 146097 = guess at hguess ⊢
    split
    · rename_i hbefore
      have hpos : 1 ≤ guess := by
        by_contra hzero
        have : guess = 0 := by omega
        subst this
        rw [hone] at hbefore
        omega
      exact ⟨guess, rfl, hpos, hguess.1, hbefore⟩
    · split
      · exact ⟨guess + 2, rfl, by omega, ‹_›, hguess.2⟩
      · exact ⟨guess + 1, rfl, by omega, by omega, by omega⟩
  obtain ⟨year, hyear, hpos, hfrom, hto⟩ := hinner
  refine ⟨days / 146097 * 400 + year, ?_, by omega, ?_, ?_⟩
  · rw [yearAfter, hcycle, hcycles]
    rw [hyear, Int.natCast_add, Int.natCast_mul]
    rfl
  · rw [daysBeforeYear_add_cycles hpos]
    omega
  · rw [Nat.add_assoc, daysBeforeYear_add_cycles (by omega)]
    omega

theorem yearAfter_nonpos {days : Int} (h : days < 0) : yearAfter days ≤ 0 := by
  have hcycle : (days % 146097).toNat < 146097 := by omega
  have hcycles : days / 146097 ≤ -1 := by omega
  have hwhole : daysBeforeYear 401 = 146097 := rfl
  rw [yearAfter]
  generalize (days % 146097).toNat = inCycle at hcycle ⊢
  have hguess : inCycle * 400 / 146097 < 400 := by omega
  -- the last year of a cycle has no day behind it within the cycle
  have hyear : (if inCycle < daysBeforeYear (inCycle * 400 / 146097 + 1) then
        inCycle * 400 / 146097 + 1 - 1
      else if daysBeforeYear (inCycle * 400 / 146097 + 1 + 1) ≤ inCycle then
        inCycle * 400 / 146097 + 1 + 1
      else inCycle * 400 / 146097 + 1) ≤ 400 := by
    generalize inCycle * 400 / 146097 = guess at hguess ⊢
    split
    · omega
    · split
      · rename_i hnext
        by_contra hmany
        have : guess = 399 := by omega
        subst this
        rw [hwhole] at hnext
        omega
      · omega
  omega

theorem daysThroughMonth_twelve (year : Nat) : daysThroughMonth year 12 = daysInYear year := by
  cases hleap : isLeapYear year <;> simp [daysThroughMonth, daysInMonth, daysInYear, hleap]

theorem daysInMonth_le (year month : Nat) : daysInMonth year month ≤ 31 := by
  unfold daysInMonth
  split
  · split <;> omega
  · split <;> omega

private theorem daysThroughMonth_mono (year : Nat) {month later : Nat} (h : month ≤ later) :
    daysThroughMonth year month ≤ daysThroughMonth year later :=
  monotone_nat_of_le_succ (fun _ => Nat.le_add_right ..) h

private theorem exists_month (year : Nat) {rest months : Nat}
    (h : rest < daysThroughMonth year months) :
    ∃ month < months, daysThroughMonth year month ≤ rest ∧
      rest < daysThroughMonth year (month + 1) := by
  induction months with
  | zero => exact absurd h (Nat.not_lt_zero _)
  | succ months ih =>
    by_cases hlast : rest < daysThroughMonth year months
    · obtain ⟨month, hlt, hmonth⟩ := ih hlast
      exact ⟨month, Nat.lt_succ_of_lt hlt, hmonth⟩
    · exact ⟨months, Nat.lt_succ_self _, Nat.le_of_not_lt hlast, h⟩

private theorem countP_daysThroughMonth {year rest month : Nat} (hlt : month < 12)
    (hfrom : daysThroughMonth year month ≤ rest) (hto : rest < daysThroughMonth year (month + 1)) :
    (List.range 12).countP (daysThroughMonth year · ≤ rest) = month + 1 := by
  have hrange : List.range 12 =
      List.range (month + 1) ++ (List.range (11 - month)).map (month + 1 + ·) := by
    rw [← List.range_add, show month + 1 + (11 - month) = 12 by omega]
  have hended : (List.range (month + 1)).countP (daysThroughMonth year · ≤ rest) = month + 1 := by
    rw [List.countP_eq_length.2, List.length_range]
    intro m hm
    rw [decide_eq_true_eq]
    exact (daysThroughMonth_mono year (Nat.le_of_lt_succ (List.mem_range.1 hm))).trans hfrom
  have hlater : ((List.range (11 - month)).map (month + 1 + ·)).countP
      (daysThroughMonth year · ≤ rest) = 0 := by
    rw [List.countP_eq_zero]
    intro m hm
    obtain ⟨k, -, rfl⟩ := List.mem_map.1 hm
    rw [decide_eq_true_eq, Nat.not_le]
    exact hto.trans_le (daysThroughMonth_mono year (Nat.le_add_right ..))
  rw [hrange, List.countP_append, hended, hlater]

private theorem ordinal_bounds (d : Date) :
    daysBeforeYear d.year < d.ordinal ∧ d.ordinal ≤ daysBeforeYear (d.year + 1) := by
  obtain ⟨⟨hyear, -⟩, ⟨hmonth, hmonth'⟩, hday, hday'⟩ := d.valid
  have hsucc := daysBeforeYear_succ hyear
  have hmonths := daysThroughMonth_mono d.year hmonth'
  have hstep : daysThroughMonth d.year d.month =
      daysThroughMonth d.year (d.month - 1) + daysInMonth d.year d.month := by
    conv_lhs => rw [show d.month = d.month - 1 + 1 by omega, daysThroughMonth]
    rw [show d.month - 1 + 1 = d.month by omega]
  rw [daysThroughMonth_twelve] at hmonths
  unfold ordinal
  omega

theorem ordinal_le_last (d : Date) : d.ordinal ≤ lastOrdinal := by
  have hlast : daysBeforeYear (d.year + 1) ≤ lastOrdinal := by
    rw [← daysBeforeYear_lastYear]
    exact daysBeforeYear_mono (by have := d.valid.1.2; omega)
  exact d.ordinal_bounds.2.trans hlast

/-- Every number of a day is the number of a date. -/
theorem ofOrdinal?_eq_some {n : Nat} (hpos : 1 ≤ n) (hlast : n ≤ lastOrdinal) :
    ∃ d, ofOrdinal? n = some d ∧ d.ordinal = n := by
  obtain ⟨year, hyear, hone, hfrom, hto⟩ := yearAfter_spec (n - 1)
  have hafter : yearAfter ((n : Int) - 1) = year := by
    rw [← hyear]
    congr 1
    omega
  have hyears : year ≤ 9999 := by
    by_contra hmany
    have := daysBeforeYear_mono (show 10000 ≤ year by omega)
    rw [daysBeforeYear_lastYear] at this
    omega
  have hrest : n - 1 - daysBeforeYear year < daysThroughMonth year 12 := by
    rw [daysThroughMonth_twelve]
    have := daysBeforeYear_succ hone
    omega
  obtain ⟨month, hmonth, hbefore, hbehind⟩ := exists_month year hrest
  have hday : n - 1 - daysBeforeYear year - daysThroughMonth year month + 1 ≤
      daysInMonth year (month + 1) := by
    rw [daysThroughMonth] at hbehind
    omega
  refine ⟨⟨year, month + 1, n - 1 - daysBeforeYear year - daysThroughMonth year month + 1,
    ⟨hone, hyears⟩, by omega, by omega, hday⟩, ?_, ?_⟩
  · have hn : ¬ ((n : Int) < 1) := by omega
    have hrest : ((n : Int) - 1).toNat = n - 1 := by omega
    simp only [ofOrdinal?, if_neg hn, hafter, hrest, Int.toNat_natCast,
      countP_daysThroughMonth hmonth hbefore hbehind, Nat.add_sub_cancel]
    exact dif_pos _
  · simp only [ordinal, Nat.add_sub_cancel]
    omega

theorem ofOrdinal?_eq_none {n : Int} (h : n < 1 ∨ lastOrdinal < n) : ofOrdinal? n = none := by
  rcases h with h | h
  · rw [ofOrdinal?, if_pos h]
  · have hpos : ¬ n < 1 := by
      have : (0 : Int) ≤ lastOrdinal := Int.natCast_nonneg _
      omega
    obtain ⟨year, hyear, -, -, hto⟩ := yearAfter_spec (n - 1).toNat
    rw [Int.toNat_of_nonneg (by omega)] at hyear
    have hyears : ¬ year ≤ 9999 := by
      intro hle
      have := daysBeforeYear_mono (show year + 1 ≤ 10000 by omega)
      rw [daysBeforeYear_lastYear] at this
      omega
    simp only [ofOrdinal?, if_neg hpos, hyear, Int.toNat_natCast]
    exact dif_neg fun hvalid => hyears hvalid.1.2

/-- Moving by some days ends at the day that many days away, unless the calendar ends before. -/
theorem addDays?_eq_some (d : Date) (days : Int) (hfirst : 1 ≤ d.ordinal + days)
    (hlast : d.ordinal + days ≤ lastOrdinal) :
    ∃ e, d.addDays? days = some e ∧ (e.ordinal : Int) = d.ordinal + days := by
  obtain ⟨e, he, hordinal⟩ :=
    ofOrdinal?_eq_some (n := (d.ordinal + days).toNat) (by omega) (by omega)
  rw [Int.toNat_of_nonneg (by omega)] at he
  exact ⟨e, he, by omega⟩

theorem ordinal_monthStart (d : Date) : d.monthStart.ordinal + d.day = d.ordinal + 1 := by
  simp only [ordinal, monthStart]
  omega

theorem day_le (d : Date) : d.day ≤ 31 := d.valid.2.2.2.trans (daysInMonth_le _ _)

/-- Whether a date lies in a year that has one before it and one behind it. -/
def IsInner (d : Date) : Prop := 2 ≤ d.year ∧ d.year ≤ 9998

/-- A year lies between an inner date and either end of the calendar. -/
theorem IsInner.ordinal {d : Date} (h : d.IsInner) :
    366 ≤ d.ordinal ∧ d.ordinal + 365 ≤ lastOrdinal := by
  have hbounds := d.ordinal_bounds
  have hfirst : daysBeforeYear 2 ≤ daysBeforeYear d.year := daysBeforeYear_mono h.1
  have hlast : daysBeforeYear (d.year + 1) ≤ daysBeforeYear 9999 :=
    daysBeforeYear_mono (Nat.succ_le_succ h.2)
  have htwo : daysBeforeYear 2 = 365 := rfl
  have hnines : daysBeforeYear 9999 + 365 = lastOrdinal := by decide
  omega

end Date

end Cuaderno
