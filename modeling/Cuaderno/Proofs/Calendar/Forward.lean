import Cuaderno.Calendar.Written
import Cuaderno.Proofs.Calendar.RelativeDays

/-!
# Spans end behind their start

A span of some days ends on its last day, and no span that a text writes ends before it starts: a
relative date starts on its first day (`Relative.start_le_stop`), and any other text writes one day
or one moment (`Written.start_le_stop`).
-/

namespace Cuaderno

private theorem Date.ordinal_of_addDays? {d e : Date} {days : Int} (h : d.addDays? days = some e) :
    (e.ordinal : Int) = d.ordinal + days := by
  by_cases hinside : 1 ≤ d.ordinal + days ∧ d.ordinal + days ≤ lastOrdinal
  · obtain ⟨own, hown, hordinal⟩ := addDays?_eq_some d days hinside.1 hinside.2
    rw [h, Option.some.injEq] at hown
    rw [hown, hordinal]
  · have hnone : d.addDays? days = none := ofOrdinal?_eq_none (by omega)
    rw [h] at hnone
    cases hnone

namespace Span

private theorem start_le_stop_ofDays {first last : Date} :
    (ofDays first last).start ≤ (ofDays first last).stop ↔ first.ordinal ≤ last.ordinal :=
  Moment.startOf_le_iff

theorem start_le_stop_ofDay (d : Date) : (ofDay d).start ≤ (ofDay d).stop :=
  start_le_stop_ofDays.2 (Nat.le_refl _)

theorem start_le_stop_ofMoment (m : Moment) : (ofMoment m).start ≤ (ofMoment m).stop :=
  Int.le_refl m.instant

end Span

namespace Relative

private theorem start_le_stop_week {start : Date} {s : Span} (h : weekFrom? start = some s) :
    s.start ≤ s.stop := by
  obtain ⟨stop, hstop, hs⟩ := Option.bind_eq_some_iff.1 h
  have hordinal := Date.ordinal_of_addDays? hstop
  cases hs
  rw [Span.start_le_stop_ofDays]
  omega

/-- A month that has a day in the next one ends behind its first day. -/
theorem start_le_stop_month {today behind last : Date}
    (hbehind : today.monthStart.addDays? 32 = some behind)
    (hlast : behind.monthStart.addDays? (-1) = some last) :
    today.monthStart.ordinal ≤ last.ordinal := by
  have hbehind := Date.ordinal_of_addDays? hbehind
  have hlast := Date.ordinal_of_addDays? hlast
  have hstart := behind.ordinal_monthStart
  have hday := behind.day_le
  omega

private theorem start_le_stop {r : Relative} {today : Date} {s : Span}
    (h : r.span? today = some s) :
    s.start ≤ s.stop := by
  cases r with
  | today =>
    cases h
    exact Span.start_le_stop_ofDay today
  | yesterday | tomorrow =>
    obtain ⟨d, -, rfl⟩ := Option.map_eq_some_iff.1 h
    exact Span.start_le_stop_ofDay d
  | thisWeek =>
    obtain ⟨start, -, hweek⟩ := Option.bind_eq_some_iff.1 h
    exact start_le_stop_week hweek
  | lastWeek =>
    obtain ⟨start, -, h⟩ := Option.bind_eq_some_iff.1 h
    obtain ⟨before, -, hweek⟩ := Option.bind_eq_some_iff.1 h
    exact start_le_stop_week hweek
  | thisMonth =>
    obtain ⟨behind, hbehind, h⟩ := Option.bind_eq_some_iff.1 h
    obtain ⟨last, hlast, hs⟩ := Option.bind_eq_some_iff.1 h
    cases hs
    exact Span.start_le_stop_ofDays.2 (start_le_stop_month hbehind hlast)
  | lastMonth =>
    obtain ⟨last, -, hs⟩ := Option.bind_eq_some_iff.1 h
    cases hs
    have hstart := last.ordinal_monthStart
    have hday := last.valid.2.2.1
    rw [Span.start_le_stop_ofDays]
    omega

theorem start_le_stop_of_resolve {signRequired : Bool} {cs : List Char} {clock : Clock} {s : Span}
    (h : resolve signRequired cs clock = .ok (some s)) : s.start ≤ s.stop := by
  unfold resolve at h
  cases hr : ofText? signRequired cs with
  | none =>
    rw [hr] at h
    cases h
  | some r =>
    rw [hr] at h
    obtain ⟨now, -, h⟩ := Outcome.bind_eq_ok.1 h
    cases hspan : r.span? now.date with
    | none =>
      simp only [hspan] at h
      cases h
    | some span =>
      simp only [hspan] at h
      cases h
      exact start_le_stop hspan

end Relative

/-- The span that a text writes starts before it ends. -/
theorem Written.start_le_stop {cs : List Char} {clock : Clock} {s : Span}
    (h : span cs clock = .ok (some s)) : s.start ≤ s.stop := by
  unfold span at h
  obtain ⟨days, hdays, h⟩ := Outcome.bind_eq_ok.1 h
  cases days with
  | some days =>
    cases h
    exact Relative.start_le_stop_of_resolve hdays
  | none =>
    obtain ⟨m, -, h⟩ := Outcome.bind_eq_ok.1 h
    cases m with
    | none => cases h
    | some m =>
      cases h
      split
      · exact Span.start_le_stop_ofMoment m
      · exact Span.start_le_stop_ofDay m.date

end Cuaderno
