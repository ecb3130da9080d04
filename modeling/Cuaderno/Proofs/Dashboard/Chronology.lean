import Cuaderno.Proofs.Calendar.TextOrder
import Cuaderno.Proofs.Dashboard.Tally
import Cuaderno.Proofs.Dashboard.Timeline

/-!
# The points of a timeline

A timeline has a point for each day, week or month in which a moment lies, and counts the moments in
it. The points are told apart and sorted by their texts alone. Since two texts are the same only for
the same day, week or month, and the order of the texts is the order of time, the points come in the
order of time, and each moment is counted in one of them (`Panel.chartData_chronology`).
-/

namespace Cuaderno

open Outcome

/-- Whether a date lies in the day, the week from Sunday to Saturday or the month that starts with
another. -/
def Grouping.Holds (g : Grouping) (start d : Date) : Prop :=
  match g with
  | .day => d = start
  | .week => Date.InWeek start d
  | .month => start.day = 1 ∧ d.year = start.year ∧ d.month = start.month

instance (sunday d : Date) : Decidable (Date.InWeek sunday d) :=
  decidable_of_iff _ Date.inWeek_iff.symm

instance (g : Grouping) (start d : Date) : Decidable (g.Holds start d) :=
  match g with
  | .day => inferInstanceAs (Decidable (d = start))
  | .week => inferInstanceAs (Decidable (Date.InWeek start d))
  | .month =>
    inferInstanceAs (Decidable (start.day = 1 ∧ d.year = start.year ∧ d.month = start.month))

/-- The text of the day, the week or the month that starts with a date. -/
def Grouping.text (g : Grouping) (start : Date) : String :=
  match g with
  | .day | .week => String.ofList start.isoText
  | .month => String.ofList start.monthText

namespace Grouping

variable {g : Grouping} {start other d : Date}

theorem Holds.self (h : g.Holds start d) : g.Holds start start := by
  cases g with
  | day => rfl
  | week => exact ⟨h.opens, Nat.le_refl _, Nat.le_add_right ..⟩
  | month => exact ⟨h.1, rfl, rfl⟩

/-- A date lies in one day, one week and one month. -/
theorem Holds.unique (h : g.Holds start d) (h' : g.Holds other d) : start = other := by
  cases g with
  | day => exact h.symm.trans h'
  | week => exact Date.ordinal_injective (h.ordinal.trans h'.ordinal.symm)
  | month =>
    obtain ⟨hday, hyear, hmonth⟩ := h
    obtain ⟨hday', hyear', hmonth'⟩ := h'
    refine Date.eq_of_monthNumber ?_ (hday.trans hday'.symm)
    exact Date.monthNumber_eq_monthNumber.2 ⟨hyear.symm.trans hyear', hmonth.symm.trans hmonth'⟩

/-- The texts of days, of weeks and of months are in the order of time. -/
theorem text_lt_iff (hstart : g.Holds start start) (hother : g.Holds other other) :
    g.text start < g.text other ↔ start.ordinal < other.ordinal := by
  cases g with
  | day => simp only [text, String.lt_iff, String.toList_ofList, Date.isoText_lt_iff]
  | week => simp only [text, String.lt_iff, String.toList_ofList, Date.isoText_lt_iff]
  | month =>
    obtain ⟨hday, -⟩ := hstart
    obtain ⟨hday', -⟩ := hother
    simp only [text, String.lt_iff, String.toList_ofList, Date.monthText_lt_iff,
      Date.ordinal_lt_iff, hday, hday', Nat.lt_irrefl, and_false, or_false]

private theorem text_inj (hstart : g.Holds start start) (hother : g.Holds other other) :
    g.text start = g.text other ↔ start = other := by
  constructor
  · intro htext
    have hlt : ¬ start.ordinal < other.ordinal := by
      rw [← text_lt_iff hstart hother, htext]
      exact String.lt_irrefl _
    have hgt : ¬ other.ordinal < start.ordinal := by
      rw [← text_lt_iff hother hstart, htext]
      exact String.lt_irrefl _
    exact Date.ordinal_injective (by omega)
  · rintro rfl
    rfl

end Grouping

namespace Dashboard

variable {c : ChartConfig} {g : Grouping} {m : Moment} {moments : List Moment}
  {items : List Item} {clock : Clock} {text : String} {dates : List String} {start : Date}

/-- A moment has the text of the day, the week or the month in which it lies. -/
theorem timelineDate_eq_ok (h : timelineDate g m = .ok text) :
    ∃ start, g.Holds start m.date ∧ g.text start = text := by
  cases g with
  | day =>
    cases h
    exact ⟨m.date, rfl, rfl⟩
  | week =>
    unfold timelineDate at h
    cases hsunday : m.date.weekStart? with
    | none =>
      rw [hsunday] at h
      cases h
    | some sunday =>
      rw [hsunday] at h
      cases h
      refine ⟨sunday, ?_, rfl⟩
      obtain ⟨own, hown, hweek⟩ := Date.weekStart?_eq_some (d := m.date) (by
        by_contra hlt
        rw [Date.weekStart?_eq_none.2 (Nat.lt_of_not_le hlt)] at hsunday
        cases hsunday)
      rw [hown] at hsunday
      cases hsunday
      exact hweek
  | month =>
    cases h
    refine ⟨m.date.monthStart, ⟨rfl, rfl, rfl⟩, ?_⟩
    rw [Date.take_isoText]
    rfl

theorem eq_text_iff (h : timelineDate g m = .ok text) (hstart : g.Holds start start) :
    text = g.text start ↔ g.Holds start m.date := by
  obtain ⟨own, hown, rfl⟩ := timelineDate_eq_ok h
  rw [Grouping.text_inj hown.self hstart]
  constructor
  · rintro rfl
    exact hown
  · exact hown.unique

/-- The places of items are the texts of the moments that they have. -/
theorem exists_moments (h : items.filterMapM (timelinePlace c clock) = .ok dates) :
    ∃ moments, items.filterMapM (timelineMoment · c.timelineId clock) = .ok moments ∧
      moments.mapM (timelineDate c.grouping) = .ok dates := by
  induction items generalizing dates with
  | nil =>
    cases h
    exact ⟨[], rfl, rfl⟩
  | cons item items ih =>
    rw [List.filterMapM_cons] at h
    obtain ⟨place, hplace, h⟩ := bind_eq_ok.1 h
    obtain ⟨found, hfound, hplace⟩ := bind_eq_ok.1 hplace
    cases found with
    | none =>
      cases hplace
      obtain ⟨moments, hmoments, hdates⟩ := ih h
      refine ⟨moments, ?_, hdates⟩
      rw [List.filterMapM_cons, hfound]
      exact hmoments
    | some m =>
      obtain ⟨text, htext, rfl⟩ := map_eq_ok.1 hplace
      obtain ⟨rest, hrest, rfl⟩ := map_eq_ok.1 h
      obtain ⟨moments, hmoments, hdates⟩ := ih hrest
      refine ⟨m :: moments, ?_, ?_⟩
      · rw [List.filterMapM_cons, hfound, ok_bind, hmoments]
        rfl
      · rw [List.mapM_cons, htext, ok_bind, hdates]
        rfl

/-- A text comes as often as moments lie in its day, week or month. -/
theorem count_text (h : moments.mapM (timelineDate g) = .ok dates) (hstart : g.Holds start start) :
    dates.count (g.text start) = moments.countP fun m => g.Holds start m.date := by
  have h := mapM_eq_ok.1 h
  induction h with
  | nil => rfl
  | cons htext _ ih =>
    rw [List.count_cons, List.countP_cons, ih (mapM_eq_ok.2 ‹_›)]
    simp only [beq_iff_eq, eq_text_iff htext hstart, decide_eq_true_eq]

/-- Each text starts with a date that its day, week or month starts with. -/
theorem exists_starts (h : moments.mapM (timelineDate g) = .ok dates) {texts : List String}
    (htexts : ∀ text ∈ texts, text ∈ dates) :
    ∃ starts : List Date, starts.map g.text = texts ∧ ∀ start ∈ starts, g.Holds start start := by
  induction texts with
  | nil => exact ⟨[], rfl, fun _ hstart => absurd hstart List.not_mem_nil⟩
  | cons text texts ih =>
    obtain ⟨starts, hmap, hstarts⟩ := ih fun t ht => htexts t (List.mem_cons_of_mem _ ht)
    obtain ⟨m, -, hm⟩ := forall_of_mapM_eq_ok h text (htexts text List.mem_cons_self)
    obtain ⟨start, hholds, rfl⟩ := timelineDate_eq_ok hm
    refine ⟨start :: starts, by rw [List.map_cons, hmap], ?_⟩
    intro other hother
    rcases List.mem_cons.1 hother with rfl | hother
    · exact hholds.self
    · exact hstarts other hother

private theorem timelinePoints_eq (c : ChartConfig) (items : List Item) (clock : Clock) :
    timelinePoints c items clock =
      (fun dates => ((tally dates).mergeSort fun a b => a.1 ≤ b.1).map fun (date, n) => ⟨date, n⟩)
        <$> items.filterMapM (timelinePlace c clock) := rfl

/-- How a timeline counts moments by the days, the weeks or the months that start with some
dates. -/
structure CountsMoments (g : Grouping) (moments : List Moment) (starts : List Date)
    (points : List TimelinePoint) : Prop where
  /-- A point has the text of its day, week or month and the number of moments in it. -/
  points_eq : points = starts.map fun start =>
    ⟨g.text start, moments.countP fun m => g.Holds start m.date⟩
  /-- The points are in the order of time. -/
  chronological : starts.Pairwise fun a b => a.ordinal < b.ordinal
  /-- Their texts are in the order of texts. -/
  sorted : points.Pairwise fun p q => p.date < q.date
  /-- No point is without a moment. -/
  count_pos : ∀ p ∈ points, 0 < p.count
  /-- Each moment is counted once. -/
  sum_count : (points.map (·.count)).sum = moments.length

/-- The distinct dates of a timeline, in order, each with the number of its occurrences. -/
theorem mergeSort_tally (dates : List String) :
    (tally dates).mergeSort (fun a b => a.1 ≤ b.1) =
      (dates.eraseDups.mergeSort fun a b => a ≤ b).map fun s => (s, dates.count s) := by
  rw [tally_eq]
  exact (List.map_mergeSort (f := fun s => (s, dates.count s)) fun _ _ _ _ => rfl).symm

private theorem exists_countsMoments (h : moments.mapM (timelineDate g) = .ok dates) :
    ∃ starts, CountsMoments g moments starts
      (((tally dates).mergeSort fun a b => a.1 ≤ b.1).map fun (date, n) => ⟨date, n⟩) := by
  generalize htexts : (dates.eraseDups.mergeSort fun a b => decide (a ≤ b)) = texts
  have hperm : texts.Perm dates.eraseDups := htexts ▸ List.mergeSort_perm _ _
  have hmem : ∀ text ∈ texts, text ∈ dates := fun text htext =>
    List.mem_eraseDups.1 (hperm.mem_iff.1 htext)
  have hsorted : texts.Pairwise (· < ·) := htexts ▸
    Sorting.orders_text.pairwise_mergeSort_of_nodup (fun _ _ => trivial)
      (Sorting.nodup_eraseDups dates) fun a b hab hne =>
        Sorting.lt_of_text_le (of_decide_eq_true hab) hne
  obtain ⟨starts, hstarts, hholds⟩ := exists_starts h hmem
  have hpoints : ((tally dates).mergeSort fun a b => a.1 ≤ b.1).map
      (fun (date, n) => (⟨date, n⟩ : TimelinePoint)) =
        texts.map fun text => ⟨text, dates.count text⟩ := by
    rw [mergeSort_tally, htexts, List.map_map]
    rfl
  have hcount : texts.map (fun text => (⟨text, dates.count text⟩ : TimelinePoint)) =
      starts.map fun start => ⟨g.text start, moments.countP fun m => g.Holds start m.date⟩ := by
    rw [← hstarts, List.map_map]
    apply List.map_congr_left
    intro start hstart
    rw [Function.comp_apply, count_text h (hholds start hstart)]
  rw [hpoints]
  refine ⟨starts, hcount, ?_, ?_, ?_, ?_⟩
  · rw [← hstarts, List.pairwise_map] at hsorted
    exact hsorted.imp_of_mem fun ha hb hab =>
      (Grouping.text_lt_iff (hholds _ ha) (hholds _ hb)).1 hab
  · rwa [List.pairwise_map]
  · intro p hp
    obtain ⟨text, htext, rfl⟩ := List.mem_map.1 hp
    exact List.count_pos_iff.2 (hmem text htext)
  · have hlength : moments.length = dates.length := (mapM_eq_ok.1 h).length_eq
    rw [List.map_map, hlength, ← sum_counts dates]
    exact (hperm.map fun text => dates.count text).sum_nat

end Dashboard

namespace Panel

open Dashboard

variable {p : Panel} {c : ChartConfig} {catalog : Catalog} {items : List Item} {clock : Clock}
  {limit : Int} {data : ChartData}

/-- Whenever a timeline has its points, they count the moments of the items that its query finds:
each moment once, by days, weeks from Sunday to Saturday or months, which come in the order of time
and of their texts. -/
theorem chartData_chronology (hchart : p.chart = some c) (hkind : c.kind = .timeline)
    (h : p.chartData catalog items clock limit = .ok data) :
    ∃ found moments starts points,
      p.query.run catalog items clock recentDays = .ok found ∧
      found.filterMapM (timelineMoment · c.timelineId clock) = .ok moments ∧
      data = .timeline points ∧ CountsMoments c.grouping moments starts points := by
  simp only [chartData, hchart] at h
  obtain ⟨found, hfound, h⟩ := bind_eq_ok.1 h
  simp only [hkind] at h
  obtain ⟨points, hpoints, hdata⟩ := bind_eq_ok.1 h
  rw [timelinePoints_eq] at hpoints
  obtain ⟨dates, hdates, rfl⟩ := map_eq_ok.1 hpoints
  obtain ⟨moments, hmoments, htexts⟩ := exists_moments hdates
  obtain ⟨starts, hcounts⟩ := exists_countsMoments htexts
  cases hdata
  exact ⟨found, moments, starts, _, hfound, hmoments, rfl, hcounts⟩

/-- Entries of a diary on the days around a new year, and one that was seen on no day. -/
def newYearEntries : List Item :=
  ["2024-01-07", "2023-12-31", "nunca", "06/01/2024"].map fun s => entry .first [("seen", .text s)]

/-- A timeline of all entries by weeks, in the order in which they stand. -/
def weekPanel : Panel := { diaryPanel "seen" .week with query := { sortBy := "orden" } }

/-- The last day of 2023 is a Sunday: its week goes from one year to the other. -/
theorem chartData_chronology_newYear : ∃ moments starts points,
    weekPanel.chartData .empty newYearEntries mayClock 8 = .ok (.timeline points) ∧
      newYearEntries.filterMapM (timelineMoment · "seen" mayClock) = .ok moments ∧
      CountsMoments .week moments starts points ∧ (points.map (·.count)).sum = 3 := by
  have hrun : weekPanel.query.run .empty newYearEntries mayClock recentDays =
      .ok newYearEntries := by
    decide +kernel
  have hplaces : newYearEntries.filterMapM (timelinePlace (diaryChart "seen" .week) mayClock) =
      .ok ["2024-01-07", "2023-12-31", "2023-12-31"] := by
    decide +kernel
  have h : weekPanel.chartData .empty newYearEntries mayClock 8 = .timeline <$>
      timelinePoints (diaryChart "seen" .week) newYearEntries mayClock := by
    simp only [chartData, hrun]
    rfl
  obtain ⟨points, hpoints⟩ : ∃ points,
      timelinePoints (diaryChart "seen" .week) newYearEntries mayClock = .ok points := by
    rw [timelinePoints_eq, hplaces]
    exact ⟨_, rfl⟩
  rw [hpoints] at h
  obtain ⟨found, moments, starts, points, hfound, hmoments, hdata, hcounts⟩ :=
    @chartData_chronology weekPanel _ _ _ _ _ _ rfl rfl h
  cases hdata
  rw [hrun] at hfound
  cases hfound
  change newYearEntries.filterMapM (timelineMoment · "seen" mayClock) = .ok moments at hmoments
  have hlength : List.length <$> newYearEntries.filterMapM (timelineMoment · "seen" mayClock) =
      .ok 3 := by
    decide +kernel
  rw [hmoments] at hlength
  exact ⟨moments, starts, points, h, hmoments, hcounts,
    hcounts.sum_count.trans (Except.ok.inj hlength)⟩

end Panel

end Cuaderno
