import Cuaderno.Dashboard.Chart
import Cuaderno.Proofs.Calendar.Beyond
import Cuaderno.Proofs.Dashboard.Selection
import Cuaderno.Proofs.Samples
import Cuaderno.Snapshot.Reader

/-!
# Items without a place on a timeline

A timeline asks two things of an item: at which moment it stands, and in which day, week or month
that moment lies. Both can lead out of the calendar. A text may write a moment before the first date
or behind the last one, and a week that a timeline counts by may start before the first date. An
item without a date of its own is one of the latter, since it is read with the first moment of all.
These are the only faults of a timeline (`Panel.chartData_timeline`).
-/

namespace Cuaderno

open Outcome

def ChartConfig.timelineId (c : ChartConfig) : String :=
  if c.timelineBy = "" then "createdAt" else c.timelineBy

/-- Why an item has no place on a timeline: its text writes a moment outside the calendar, or its
moment lies before the first Sunday of the calendar, and weeks are counted. -/
inductive ChartConfig.Displaces (c : ChartConfig) (clock : Clock) (item : Item) : Prop
  | beyond {s : String} (own : c.timelineId ∉ ["createdAt", "updatedAt"])
      (stored : item.value? c.timelineId = some (.text s)) (beyond : Written.IsBeyond s.toList)
  | week {m : Moment} (weekly : c.grouping = .week)
      (moment : Dashboard.timelineMoment item c.timelineId clock = .ok (some m))
      (early : m < .startOf ⟨1, 1, 7, by decide⟩)

namespace Dashboard

variable {c : ChartConfig} {item : Item} {items : List Item} {clock : Clock} {fault : Fault}

theorem timelineMoment_eq_error {id : String} (hinner : clock.wall.date.IsInner) :
    timelineMoment item id clock = .error fault ↔ fault = .outOfRange ∧
      id ∉ ["createdAt", "updatedAt"] ∧
      ∃ s, item.value? id = some (.text s) ∧ Written.IsBeyond s.toList := by
  by_cases hown : id ∈ ["createdAt", "updatedAt"]
  -- The moments that every item has are there as they are: nothing is read.
  · rcases List.mem_pair.1 hown with rfl | rfl
    · simp [timelineMoment]
    · simp [timelineMoment]
  · have hread (cs : List Char) : Written.moment cs clock.wallOnly = .error fault ↔
        fault = .outOfRange ∧ Written.IsBeyond cs := Written.moment_eq_error rfl hinner
    simp only [List.mem_cons, List.not_mem_nil, or_false, not_or] at hown
    simp only [timelineMoment, if_neg hown.1, if_neg hown.2]
    cases hv : item.value? id with
    | none => simp
    | some v => cases v <;> simp [hread, hown]

theorem timelineDate_eq_error {g : Grouping} {m : Moment} : timelineDate g m = .error fault ↔
    fault = .outOfRange ∧ g = .week ∧ m < .startOf ⟨1, 1, 7, by decide⟩ := by
  have hsunday : Date.ordinal ⟨1, 1, 7, by decide⟩ = 7 := by decide
  rw [Moment.lt_startOf_iff, hsunday, ← Date.weekStart?_eq_none]
  unfold timelineDate
  cases g with
  | day => simp
  | month => simp
  | week => cases m.date.weekStart? <;> simp [eq_comm]

/-- Where a timeline puts an item; nothing when the item has no moment. -/
def timelinePlace (c : ChartConfig) (clock : Clock) (item : Item) :
    Except Fault (Option String) := do
  match ← timelineMoment item c.timelineId clock with
  | some m => return some (← timelineDate c.grouping m)
  | none => return none

theorem timelinePlace_eq_error (hinner : clock.wall.date.IsInner) :
    timelinePlace c clock item = .error fault ↔
      fault = .outOfRange ∧ c.Displaces clock item := by
  rw [timelinePlace, bind_eq_error, timelineMoment_eq_error hinner]
  constructor
  · rintro (⟨hfault, hown, s, hs, hbeyond⟩ | ⟨found, hmoment, hplace⟩)
    · exact ⟨hfault, .beyond hown hs hbeyond⟩
    · cases found with
      | none => cases hplace
      | some m =>
        obtain ⟨hfault, hweekly, hearly⟩ := timelineDate_eq_error.1 (map_eq_error.1 hplace)
        exact ⟨hfault, .week hweekly hmoment hearly⟩
  · rintro ⟨hfault, hdisplaces⟩
    cases hdisplaces with
    | beyond own stored beyond => exact .inl ⟨hfault, own, _, stored, beyond⟩
    | week weekly moment early =>
      exact .inr ⟨_, moment, map_eq_error.2 (timelineDate_eq_error.2 ⟨hfault, weekly, early⟩)⟩

theorem timelinePoints_eq_error (hinner : clock.wall.date.IsInner) :
    timelinePoints c items clock = .error fault ↔
      fault = .outOfRange ∧ ∃ item ∈ items, c.Displaces clock item := by
  have hplaces : items.filterMapM (timelinePlace c clock) = .error fault ↔
      fault = .outOfRange ∧ ∃ item ∈ items, c.Displaces clock item :=
    filterMapM_eq_error fun item _ _ => timelinePlace_eq_error hinner
  rw [← hplaces]
  exact map_eq_error

end Dashboard

structure Panel.ShowsTimeline (p : Panel) (c : ChartConfig) : Prop where
  chart : p.chart = some c
  kind : c.kind = .timeline
  preset : p.query.preset = none
  conditions : p.query.conditions = []
  period : p.query.period = none

namespace Panel

variable {p : Panel} {c : ChartConfig} {clock : Clock} {now : Moment}

/-- The query of such a panel asks nothing about the items but their types. -/
theorem ShowsTimeline.exists_run (h : p.ShowsTimeline c) (hnow : clock.now = .ok now)
    (catalog : Catalog) (items : List Item) (days : Int) :
    ∃ selected, p.query.run catalog items clock days = .ok selected ∧
      ∀ item, item ∈ selected ↔ item ∈ items ∧ p.query.keepsType item.typeId = true := by
  have hanswered : p.query.Answered catalog items clock now days := by
    refine ⟨?_, ?_, ?_⟩
    · intro preset hpreset
      rw [h.preset] at hpreset
      cases hpreset
    · intro item _ condition hcondition
      rw [h.conditions] at hcondition
      cases hcondition
    · intro item _ period hperiod
      rw [h.period] at hperiod
      cases hperiod
  have hkeeps (item : Item) :
      p.query.keeps catalog clock now days item = p.query.keepsType item.typeId := by
    simp [Query.keeps, Query.meetsPreset, Query.meetsConditions, Query.meetsPeriod, h.preset,
      h.conditions, h.period]
  refine ⟨_, Query.run_eq hnow hanswered, fun item => ?_⟩
  rw [(Query.perm_run p.query catalog items clock now days).mem_iff, List.mem_filter, hkeeps]

/-- Whenever it is evaluated, as long as the wall clock is in an inner year, a timeline of all items
of some types has its points when each of them has its place, and is out of range when one of them
has none. Local time is universal time (`Stamp.moment?`). -/
theorem chartData_timeline (h : p.ShowsTimeline c) (hnow : clock.now = .ok now)
    (hinner : clock.wall.date.IsInner) (catalog : Catalog) (items : List Item) (limit : Int) :
    ((∀ item ∈ items, p.query.keepsType item.typeId = true → ¬ c.Displaces clock item) →
      ∃ points, p.chartData catalog items clock limit = .ok (.timeline points)) ∧
    (∀ item ∈ items, p.query.keepsType item.typeId = true → c.Displaces clock item →
      p.chartData catalog items clock limit = .error .outOfRange) := by
  obtain ⟨selected, hrun, hselected⟩ := h.exists_run hnow catalog items recentDays
  have hdata : p.chartData catalog items clock limit =
      .timeline <$> Dashboard.timelinePoints c selected clock := by
    simp only [chartData, h.chart, hrun, ok_bind, h.kind]
    rfl
  constructor
  · intro hplaced
    have hends : ∃ points, Dashboard.timelinePoints c selected clock = .ok points :=
      exists_eq_ok fun fault he => by
        obtain ⟨-, item, hitem, hdisplaces⟩ := (Dashboard.timelinePoints_eq_error hinner).1 he
        obtain ⟨hmem, hkept⟩ := (hselected item).1 hitem
        exact hplaced item hmem hkept hdisplaces
    obtain ⟨points, hpoints⟩ := hends
    exact ⟨points, by rw [hdata, hpoints]; rfl⟩
  · intro item hmem hkept hdisplaces
    rw [hdata, map_eq_error, Dashboard.timelinePoints_eq_error hinner]
    exact ⟨rfl, item, (hselected item).2 ⟨hmem, hkept⟩, hdisplaces⟩

end Panel

namespace Dashboard

open Document

/-- A document with one entry of a diary, and a timeline of all entries. -/
def diaryDocument (entry : List (String × Document)) (property grouping : String) : Document :=
  .ofFields [
    ("objects", .list [.ofFields ([("id", .text "a"), ("type", .text "entry")] ++ entry)]),
    ("panels", .list [.ofFields [("id", .text "p"),
      ("chartConfig", .ofFields [("type", .text "timeline"), ("timelineProperty", .text property),
        ("timelineGroupBy", .text grouping)])]])]

/-- An entry of the first Sunday has its place among the weeks. -/
theorem chartData_timeline_sunday : ∃ s points,
    Snapshot.read (diaryDocument [("createdAt", .text "0001-01-07")] "createdAt" "week") = .ok s ∧
      ∃ p ∈ s.panels, p.chartData s.catalog s.items mayClock 8 = .ok (.timeline points) := by
  let sunday : Item := entry (.startOf ⟨1, 1, 7, by decide⟩) []
  have hplace : ∀ item ∈ [sunday], ¬ (diaryChart "createdAt" .week).Displaces mayClock item := by
    intro item hitem
    obtain rfl := List.mem_singleton.1 hitem
    intro h
    cases h with
    | beyond own _ _ => exact own (by decide)
    | week _ moment early =>
      cases moment
      exact absurd early (by decide)
  let s : Snapshot := ⟨[], [sunday], [diaryPanel "createdAt" .week]⟩
  obtain ⟨points, hpoints⟩ := (@Panel.chartData_timeline (diaryPanel "createdAt" .week) _ mayClock _
    ⟨rfl, rfl, rfl, rfl, rfl⟩ rfl ⟨by decide, by decide⟩ s.catalog s.items 8).1
      fun item hitem _ => hplace item hitem
  exact ⟨s, points, by decide +kernel, _, List.mem_singleton_self _, hpoints⟩

/-- An entry without a date stands at the first moment, whose week starts before the calendar; and
one whose text writes a moment before the calendar stands nowhere at all. Both are read, and have no
timeline. -/
theorem timeline_of_entries_outside :
    (∃ s, Snapshot.read (diaryDocument [] "createdAt" "week") = .ok s ∧
      ∃ p ∈ s.panels, p.query = {} ∧ p.chart = some (diaryChart "createdAt" .week) ∧
        p.chartData s.catalog s.items mayClock 8 = .error .outOfRange) ∧
    ∃ s, Snapshot.read (diaryDocument
        [("properties", .ofFields [("seen", .text "0001-01-01T00:00+01:00")])] "seen" "day") =
          .ok s ∧
      ∃ p ∈ s.panels, p.query = {} ∧ p.chart = some (diaryChart "seen" .day) ∧
        p.chartData s.catalog s.items mayClock 8 = .error .outOfRange := by
  constructor
  · exact ⟨⟨[], [entry .first []], [diaryPanel "createdAt" .week]⟩, by decide +kernel, _,
      List.mem_singleton_self _, rfl, rfl, by decide +kernel⟩
  · exact ⟨⟨[], [entry .first [("seen", .text "0001-01-01T00:00+01:00")]],
      [diaryPanel "seen" .day]⟩, by decide +kernel, _, List.mem_singleton_self _, rfl, rfl,
      by decide +kernel⟩

end Dashboard

end Cuaderno
