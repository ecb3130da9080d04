import Cuaderno.Calendar.Moment

/-!
# Spans of time

A span holds the moments from its start to its stop, both included. Main statement: the span of
some days holds exactly the moments whose date is one of them (`contains_ofDays_iff`).
-/

namespace Cuaderno

/-- All moments from one to another, ends included. -/
structure Span where
  start : Moment
  stop : Moment
  deriving DecidableEq, Repr

namespace Span

def contains (s : Span) (m : Moment) : Bool := s.start ≤ m && m ≤ s.stop

def ofMoment (m : Moment) : Span := ⟨m, m⟩

def ofDays (first last : Date) : Span := ⟨.startOf first, .endOf last⟩

def ofDay (d : Date) : Span := ofDays d d

theorem contains_iff {s : Span} {m : Moment} :
    s.contains m = true ↔ s.start.instant ≤ m.instant ∧ m.instant ≤ s.stop.instant := by
  simp [contains, Moment.le_def]

/-- A span of days holds the moments of these days. -/
theorem contains_ofDays_iff {first last : Date} {m : Moment} :
    (ofDays first last).contains m = true ↔
      first.ordinal ≤ m.date.ordinal ∧ m.date.ordinal ≤ last.ordinal := by
  have := m.time.lt
  simp only [contains_iff, ofDays, Moment.startOf, Moment.endOf, Moment.instant,
    TimeOfDay.midnight, TimeOfDay.last, microsPerDay] at *
  omega

end Span

end Cuaderno
