import Cuaderno.Dashboard.Chart
import Cuaderno.Proofs.Dashboard.Selection
import Cuaderno.Proofs.Outcome
import Cuaderno.Proofs.Samples

/-!
# What the wall clock changes

Queries and charts are evaluated at a given time, but texts that were stored where a moment belongs
are read by the wall clock. So a stored `hoy` means another day tomorrow, whatever time is given
(`answers_by_wall`). Nothing else changes: on one day all readings of the wall clock give the same
answers, and so do all readings whatsoever when no such text is read (`answers_eq_of_wall`).
-/

namespace Cuaderno

/-! ## Stored relative dates -/

/-- Whether an item has, under an id, a text that names a relative date. -/
def Item.HasRelative (item : Item) (id : String) : Prop :=
  ∃ s r, item.value? id = some (.text s) ∧ Relative.ofText? false s.toList = some r

/-- Whether a condition or a period reads such a text as a moment: the id is one of a property of
moments, not of the parts that every item has. -/
structure Item.ReadsRelative (item : Item) (catalog : Catalog) (id : String) : Prop where
  text : item.HasRelative id
  temporal : ∃ p, catalog.property? item.typeId id = some p ∧ p.kind.isTemporal = true
  own : id ∉ ["title", "type", "createdAt", "updatedAt"]

/-- Whether a query reads a relative date from an item. -/
def Query.ReadsRelative (q : Query) (catalog : Catalog) (item : Item) : Prop :=
  q.keepsType item.typeId = true ∧
    ((∃ c ∈ q.conditions, item.ReadsRelative catalog c.propertyId) ∨
      ∃ p, q.period = some p ∧ item.ReadsRelative catalog p.field)

/-- Whether a timeline by a property reads a relative date from an item. -/
def ChartConfig.ReadsRelative (c : ChartConfig) (item : Item) : Prop :=
  c.kind = .timeline ∧ c.timelineBy ∉ ["", "createdAt", "updatedAt"] ∧
    item.HasRelative c.timelineBy

/-- Whether the chart of a panel reads a relative date from an item. -/
def Panel.ReadsRelative (p : Panel) (catalog : Catalog) (item : Item) : Prop :=
  ∃ c, p.chart = some c ∧ (p.query.ReadsRelative catalog item ∨
    p.query.keepsType item.typeId = true ∧ c.ReadsRelative item)

/-! ## Reading texts and documents -/

section Reading

variable {clock other : Clock} {cs : List Char}

/-- A relative date is seen from the day of evaluation alone. -/
theorem Relative.resolve_congr {signRequired : Bool}
    (h : clock.now.map Moment.date = other.now.map Moment.date) :
    resolve signRequired cs clock = resolve signRequired cs other := by
  unfold resolve
  cases ofText? signRequired cs with
  | none => rfl
  | some r => cases hc : clock.now <;> cases ho : other.now <;> simp_all [Except.map]

/-- A typed moment depends on the day of evaluation, and only when it is a relative date. -/
theorem Written.moment_congr (h : clock.now.map Moment.date = other.now.map Moment.date ∨
      Relative.ofText? false cs = none) :
    moment cs clock = moment cs other := by
  have hresolve : Relative.resolve false (Text.trim cs) clock =
      Relative.resolve false (Text.trim cs) other := by
    rcases h with hday | hnone
    · exact Relative.resolve_congr hday
    · rw [← Relative.ofText?_trim] at hnone
      rw [Relative.resolve_of_none hnone, Relative.resolve_of_none hnone]
  simp only [moment, hresolve]

theorem Written.span_congr (h : clock.now = other.now) : span cs clock = span cs other := by
  have hday : clock.now.map Moment.date = other.now.map Moment.date := by rw [h]
  simp only [span, Relative.resolve_congr hday, Written.moment_congr (.inl hday)]

theorem Document.span?_congr (h : clock.now = other.now) (d : Document) :
    d.span? clock = d.span? other := by
  cases d with
  | text s => exact Written.span_congr h
  | _ => rfl

end Reading

/-! ## Reading items -/

section Items

variable {clock other : Clock} {catalog : Catalog} {item : Item} {id : String}

theorem moment_wallOnly_congr {s : String} (hv : item.value? id = some (.text s))
    (h : clock.wall.date = other.wall.date ∨ ¬ item.HasRelative id) :
    Written.moment s.toList clock.wallOnly = Written.moment s.toList other.wallOnly := by
  apply Written.moment_congr
  refine h.imp ?_ ?_
  · intro hday
    exact congrArg Except.ok hday
  · intro hnot
    cases hr : Relative.ofText? false s.toList with
    | none => rfl
    | some r => exact absurd ⟨s, r, hv, hr⟩ hnot

namespace Dashboard

/-- A stored value is read as one of its property in the same way, whatever the wall clock shows,
unless it is a relative date where a moment belongs. -/
theorem aligned_congr {v : Value} {p : Property} (hv : item.value? id = some v)
    (h : clock.wall.date = other.wall.date ∨ ¬ (item.HasRelative id ∧ p.kind.isTemporal = true)) :
    aligned v p clock = aligned v p other := by
  cases v with
  | text s =>
    have hmoment : p.kind.isTemporal = true → Written.moment s.toList clock.wallOnly =
        Written.moment s.toList other.wallOnly := by
      intro hkind
      exact moment_wallOnly_congr hv (h.imp_right fun hnot htext => hnot ⟨htext, hkind⟩)
    cases hkind : p.kind with
    | date => simp only [aligned, hkind, hmoment (by rw [hkind]; rfl)]
    | datetime => simp only [aligned, hkind, hmoment (by rw [hkind]; rfl)]
    | _ => simp only [aligned, hkind]
  | _ => rfl

theorem stored_congr
    (h : clock.wall.date = other.wall.date ∨ ¬ item.ReadsRelative catalog id) :
    stored item id catalog clock = stored item id catalog other := by
  by_cases hown : id ∈ ["title", "type", "createdAt", "updatedAt"]
  · simp only [List.mem_cons, List.not_mem_nil, or_false] at hown
    rcases hown with rfl | rfl | rfl | rfl <;> simp [stored]
  · cases hv : item.value? id with
    | none => simp only [stored, hv]
    | some v =>
      cases hp : catalog.property? item.typeId id with
      | none => simp only [stored, hv, hp]
      | some p =>
        have haligned : aligned v p clock = aligned v p other :=
          aligned_congr hv (h.imp_right fun hnot hread => hnot ⟨hread.1, ⟨p, hp, hread.2⟩, hown⟩)
        simp only [stored, hv, hp, haligned]

theorem meets_congr (hnow : clock.now = other.now) (op : Operator) (v : Option Value)
    (d : Document) : meets op v d clock = meets op v d other := by
  have hspan := Document.span?_congr hnow d
  simp only [meets, equality, compare, hspan]

end Dashboard

theorem Condition.holds_congr (hnow : clock.now = other.now) {c : Condition}
    (h : clock.wall.date = other.wall.date ∨ ¬ item.ReadsRelative catalog c.propertyId) :
    c.holds item catalog clock = c.holds item catalog other := by
  simp only [Condition.holds, Dashboard.holds, Dashboard.stored_congr h,
    Dashboard.meets_congr hnow]

theorem Period.holds_congr (hnow : clock.now = other.now) {p : Period}
    (h : clock.wall.date = other.wall.date ∨ ¬ item.ReadsRelative catalog p.field) :
    p.holds item catalog clock = p.holds item catalog other := by
  simp only [Period.holds, Dashboard.stored_congr h, Period.startsBy, Period.endsAfter,
    Document.span?_congr hnow]

end Items

/-! ## Runs of queries -/

section Runs

variable {items kept : List Item}

theorem filterAuxM_congr {test other : Item → Except Fault Bool} (done : List Item)
    (h : ∀ item ∈ items, test item = other item) :
    items.filterAuxM test done = items.filterAuxM other done := by
  induction items generalizing done with
  | nil => rfl
  | cons item items ih =>
    have hrest := fun done => ih done fun next hnext => h next (List.mem_cons_of_mem _ hnext)
    simp only [List.filterAuxM, h item (List.mem_cons_self ..), hrest]

theorem keep_congr {test other : Item → Except Fault Bool}
    (h : ∀ item ∈ items, test item = other item) : keep test items = keep other items := by
  rw [keep, keep, List.filterM, List.filterM, filterAuxM_congr [] h]

private theorem mem_of_filterAuxM {test : Item → Except Fault Bool} {done : List Item}
    (h : items.filterAuxM test done = .ok kept) {item : Item} (hmem : item ∈ kept) :
    item ∈ items ∨ item ∈ done := by
  induction items generalizing done with
  | nil =>
    cases h
    exact .inr hmem
  | cons first items ih =>
    obtain ⟨b, -, hrest⟩ := Outcome.bind_eq_ok.1 h
    rcases ih hrest with hin | hin
    · exact .inl (List.mem_cons_of_mem _ hin)
    · cases b with
      | false => exact .inr hin
      | true =>
        rcases List.mem_cons.1 hin with rfl | hin
        · exact .inl (List.mem_cons_self ..)
        · exact .inr hin

private theorem mem_of_keep {test : Item → Except Fault Bool} (h : keep test items = .ok kept)
    {item : Item} (hmem : item ∈ kept) : item ∈ items := by
  obtain ⟨done, hdone, hrev⟩ := Outcome.bind_eq_ok.1 h
  cases hrev
  rcases mem_of_filterAuxM hdone (List.mem_reverse.1 hmem) with hin | hin
  · exact hin
  · cases hin

private theorem mem_of_foldlM_keep {test : Condition → Item → Except Fault Bool}
    {conditions : List Condition}
    (h : conditions.foldlM (fun items c => keep (test c) items) items = .ok kept) {item : Item}
    (hmem : item ∈ kept) : item ∈ items := by
  induction conditions generalizing items with
  | nil =>
    cases h
    exact hmem
  | cons c conditions ih =>
    obtain ⟨first, hfirst, hrest⟩ := Outcome.bind_eq_ok.1 h
    exact mem_of_keep hfirst (ih hrest)

/-- Conditions that ask the same of each item keep the same items. -/
theorem foldlM_keep_congr {test other : Condition → Item → Except Fault Bool}
    {conditions : List Condition}
    (h : ∀ c ∈ conditions, ∀ item ∈ items, test c item = other c item) :
    conditions.foldlM (fun items c => keep (test c) items) items =
      conditions.foldlM (fun items c => keep (other c) items) items := by
  induction conditions generalizing items with
  | nil => rfl
  | cons c conditions ih =>
    rw [List.foldlM_cons, List.foldlM_cons, keep_congr (h c (List.mem_cons_self ..))]
    cases hfirst : keep (other c) items with
    | error e => rfl
    | ok first =>
      apply ih
      intro d hd item hitem
      exact h d (List.mem_cons_of_mem _ hd) item (mem_of_keep hfirst hitem)

namespace Query

variable {q : Query} {catalog : Catalog} {clock other : Clock} {now : Moment} {days : Int}

theorem mem_of_ofPreset (h : q.ofPreset catalog items now days = .ok kept) {item : Item}
    (hmem : item ∈ kept) : item ∈ items := by
  unfold ofPreset at h
  split at h
  · obtain ⟨rule, -, rfl⟩ := Outcome.map_eq_ok.1 h
    exact (List.mem_filter.1 hmem).1
  · cases h
    exact hmem

private theorem mem_of_inPeriod (h : q.inPeriod catalog items clock = .ok kept) {item : Item}
    (hmem : item ∈ kept) : item ∈ items := by
  unfold inPeriod at h
  split at h
  · exact mem_of_keep h hmem
  · cases h
    exact hmem

private theorem mem_of_kept (h : q.kept catalog items clock days = .ok kept) {item : Item}
    (hmem : item ∈ kept) : item ∈ items ∧ q.keepsType item.typeId = true := by
  obtain ⟨now, -, h⟩ := Outcome.bind_eq_ok.1 h
  obtain ⟨ofPreset, hpreset, h⟩ := Outcome.bind_eq_ok.1 h
  obtain ⟨meeting, hmeeting, h⟩ := Outcome.bind_eq_ok.1 h
  exact List.mem_filter.1
    (mem_of_ofPreset hpreset (mem_of_foldlM_keep hmeeting (mem_of_inPeriod h hmem)))

private theorem mem_of_run (h : q.run catalog items clock days = .ok kept) {item : Item}
    (hmem : item ∈ kept) : item ∈ items ∧ q.keepsType item.typeId = true := by
  obtain ⟨found, hfound, hsort⟩ := Outcome.bind_eq_ok.1 h
  cases hsort
  exact mem_of_kept hfound ((Dashboard.perm_sortItems _ _ _).mem_iff.1 hmem)

theorem kept_congr (hnow : clock.now = other.now)
    (h : clock.wall.date = other.wall.date ∨ ∀ item ∈ items, ¬ q.ReadsRelative catalog item) :
    q.kept catalog items clock days = q.kept catalog items other days := by
  unfold kept
  rw [hnow]
  cases other.now with
  | error e => simp only [Outcome.error_bind]
  | ok now =>
    simp only [Outcome.ok_bind]
    have hat : (clock.at now).now = (other.at now).now := rfl
    cases hpreset : q.ofPreset catalog (items.filter fun item => q.keepsType item.typeId) now
        days with
    | error e => simp only [Outcome.error_bind]
    | ok first =>
      have hfirst : ∀ item ∈ first, item ∈ items ∧ q.keepsType item.typeId = true :=
        fun item hitem => List.mem_filter.1 (mem_of_ofPreset hpreset hitem)
      have hconditions : ∀ c ∈ q.conditions, ∀ item ∈ first,
          c.holds item catalog (clock.at now) = c.holds item catalog (other.at now) := by
        intro c hc item hitem
        apply Condition.holds_congr hat
        refine h.imp_right fun hnot hread => ?_
        obtain ⟨hin, htype⟩ := hfirst item hitem
        exact hnot item hin ⟨htype, .inl ⟨c, hc, hread⟩⟩
      simp only [Outcome.ok_bind]
      rw [foldlM_keep_congr hconditions]
      cases hmeeting : q.conditions.foldlM
          (fun items c => keep (fun item => c.holds item catalog (other.at now)) items) first with
      | error e => simp only [Outcome.error_bind]
      | ok meeting =>
        simp only [Outcome.ok_bind, inPeriod]
        cases hp : q.period with
        | none => rfl
        | some p =>
          apply keep_congr
          intro item hitem
          apply Period.holds_congr hat
          refine h.imp_right fun hnot hread => ?_
          obtain ⟨hin, htype⟩ := hfirst item (mem_of_foldlM_keep hmeeting hitem)
          exact hnot item hin ⟨htype, .inr ⟨p, hp, hread⟩⟩

/-- A query that reads no relative date from the items gives the same answer whatever the wall
clock shows. -/
theorem run_congr (hnow : clock.now = other.now)
    (h : clock.wall.date = other.wall.date ∨ ∀ item ∈ items, ¬ q.ReadsRelative catalog item) :
    q.run catalog items clock days = q.run catalog items other days := by
  rw [run, run, kept_congr hnow h]

end Query

end Runs

/-! ## Charts -/

section Charts

variable {catalog : Catalog} {items : List Item} {clock other : Clock}

theorem Dashboard.timelineMoment_congr {item : Item} {id : String}
    (h : clock.wall.date = other.wall.date ∨
      ¬ (id ∉ ["createdAt", "updatedAt"] ∧ item.HasRelative id)) :
    timelineMoment item id clock = timelineMoment item id other := by
  by_cases hown : id ∈ ["createdAt", "updatedAt"]
  · simp only [List.mem_cons, List.not_mem_nil, or_false] at hown
    rcases hown with rfl | rfl <;> simp [timelineMoment]
  · unfold timelineMoment
    split
    · rfl
    · split
      · rfl
      · split
        · rfl
        · exact moment_wallOnly_congr ‹_› (h.imp_right fun hnot htext => hnot ⟨hown, htext⟩)
        · rfl

theorem filterMapM_congr {f g : Item → Except Fault (Option String)}
    (h : ∀ item ∈ items, f item = g item) : items.filterMapM f = items.filterMapM g := by
  induction items with
  | nil => rfl
  | cons item items ih =>
    rw [List.filterMapM_cons, List.filterMapM_cons, h item (List.mem_cons_self ..),
      ih fun next hnext => h next (List.mem_cons_of_mem _ hnext)]

theorem Dashboard.timelinePoints_congr {c : ChartConfig} (hc : c.kind = .timeline)
    (h : clock.wall.date = other.wall.date ∨ ∀ item ∈ items, ¬ c.ReadsRelative item) :
    timelinePoints c items clock = timelinePoints c items other := by
  unfold timelinePoints
  refine congrArg (fun dates => dates >>= _) (filterMapM_congr ?_)
  intro item hitem
  rw [timelineMoment_congr]
  refine h.imp_right fun hnot ⟨hid, htext⟩ => hnot item hitem ⟨hc, ?_⟩
  by_cases hempty : c.timelineBy = ""
  · simp [hempty] at hid
  · rw [if_neg hempty] at hid htext
    exact ⟨by simp_all, htext⟩

/-- A chart for which no relative date is read from the items is the same whatever the wall clock
shows. -/
theorem Panel.chartData_congr {p : Panel} {limit : Int} (hnow : clock.now = other.now)
    (h : clock.wall.date = other.wall.date ∨ ∀ item ∈ items, ¬ p.ReadsRelative catalog item) :
    p.chartData catalog items clock limit = p.chartData catalog items other limit := by
  unfold chartData
  cases hc : p.chart with
  | none => rfl
  | some c =>
    have hrun : p.query.run catalog items clock recentDays =
        p.query.run catalog items other recentDays :=
      Query.run_congr hnow (h.imp_right fun hnot item hitem hread =>
        hnot item hitem ⟨c, hc, .inl hread⟩)
    simp only [hrun]
    cases hfound : p.query.run catalog items other recentDays with
    | error e => simp only [Outcome.error_bind]
    | ok found =>
      cases hkind : c.kind with
      | timeline =>
        simp only [Outcome.ok_bind]
        rw [Dashboard.timelinePoints_congr hkind]
        refine h.imp_right fun hnot item hitem hread => ?_
        obtain ⟨hin, htype⟩ := Query.mem_of_run hfound hitem
        exact hnot item hin ⟨c, hc, .inr ⟨htype, hread⟩⟩
      | _ => rfl

end Charts

/-! ## The answers at a given time -/

namespace Dashboard

/-- At a given time, the wall clock changes the answer of a query or a chart only by its day, and
only when a relative date that an item has stored is read as a moment. -/
theorem answers_eq_of_wall (given : Stamp) (wall wall' : Moment) (catalog : Catalog)
    (items : List Item) :
    (∀ (q : Query) (days : Int),
      (wall.date = wall'.date ∨ ∀ item ∈ items, ¬ q.ReadsRelative catalog item) →
      q.run catalog items ⟨some given, wall⟩ days = q.run catalog items ⟨some given, wall'⟩ days) ∧
    ∀ (p : Panel) (limit : Int),
      (wall.date = wall'.date ∨ ∀ item ∈ items, ¬ p.ReadsRelative catalog item) →
      p.chartData catalog items ⟨some given, wall⟩ limit =
        p.chartData catalog items ⟨some given, wall'⟩ limit :=
  ⟨fun _ _ h => Query.run_congr rfl h, fun _ _ h => Panel.chartData_congr rfl h⟩

def dueToday : Query where
  conditions := [⟨"due", .equals, .text "@hoy"⟩]

def dueByDay : Panel where
  id := "due"
  name := "Entregas"
  chart := some { kind := .timeline, timelineBy := "due" }

def tomorrow : Moment := .startOf ⟨2031, 3, 10, by decide⟩

private theorem not_hasRelative_taskDue (id : String) :
    ¬ (taskDue "2031-03-09").HasRelative id := by
  rintro ⟨s, r, hv, hr⟩
  by_cases hid : id = "due"
  · subst hid
    cases hv
    have hnone : Relative.ofText? false "2031-03-09".toList = none := by decide +kernel
    rw [hnone] at hr
    cases hr
  · have hother : (id == "due") = false := by simpa using hid
    simp [Item.value?, taskDue, List.lookup_cons, hother] at hv

theorem answers_eq_of_wall_taskDue :
    dueToday.run dueTasks [taskDue "2031-03-09"] ⟨some ⟨today, none⟩, today⟩ 7 =
        dueToday.run dueTasks [taskDue "2031-03-09"] ⟨some ⟨today, none⟩, tomorrow⟩ 7 ∧
      dueByDay.chartData dueTasks [taskDue "2031-03-09"] ⟨some ⟨today, none⟩, today⟩ 8 =
        dueByDay.chartData dueTasks [taskDue "2031-03-09"] ⟨some ⟨today, none⟩, tomorrow⟩ 8 := by
  obtain ⟨hrun, hchart⟩ :=
    answers_eq_of_wall ⟨today, none⟩ today tomorrow dueTasks [taskDue "2031-03-09"]
  constructor
  · apply hrun
    refine .inr fun item hitem => ?_
    rw [List.mem_singleton.1 hitem]
    rintro ⟨-, ⟨c, -, hread⟩ | ⟨p, -, hread⟩⟩
    · exact not_hasRelative_taskDue _ hread.text
    · exact not_hasRelative_taskDue _ hread.text
  · apply hchart
    refine .inr fun item hitem => ?_
    rw [List.mem_singleton.1 hitem]
    rintro ⟨c, -, ⟨-, ⟨d, -, hread⟩ | ⟨p, -, hread⟩⟩ | ⟨-, -, -, hread⟩⟩
    · exact not_hasRelative_taskDue _ hread.text
    · exact not_hasRelative_taskDue _ hread.text
    · exact not_hasRelative_taskDue _ hread

/-- A stored `hoy` is read by the wall clock. At one given time, a task that is due on it is due
today for one reading of the wall clock and not for another, and it moves on a timeline. -/
theorem answers_by_wall :
    dueToday.run dueTasks [taskDue "hoy"] ⟨some ⟨today, none⟩, today⟩ 7 = .ok [taskDue "hoy"] ∧
    dueToday.run dueTasks [taskDue "hoy"] ⟨some ⟨today, none⟩, tomorrow⟩ 7 = .ok [] ∧
    dueByDay.chartData dueTasks [taskDue "hoy"] ⟨some ⟨today, none⟩, today⟩ 8 =
      .ok (.timeline [⟨"2031-03-09", 1⟩]) ∧
    dueByDay.chartData dueTasks [taskDue "hoy"] ⟨some ⟨today, none⟩, tomorrow⟩ 8 =
      .ok (.timeline [⟨"2031-03-10", 1⟩]) := by
  refine ⟨?_, ?_, ?_, ?_⟩
  all_goals decide +kernel

end Dashboard

end Cuaderno
