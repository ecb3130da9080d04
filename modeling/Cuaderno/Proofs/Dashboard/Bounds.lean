import Cuaderno.Proofs.Dashboard.Comparison
import Cuaderno.Proofs.Dashboard.WallClock

/-!
# Bounds of periods

A period reads the date of an item and its own bounds apart from the conditions of a query. For an
item with a date it still comes to two conditions, one for each bound
(`Period.holds_as_conditions`).

An item without a date is in every period, because its date is looked for before the bounds are. So
a bound that cannot be read takes the items with a date out of a query and leaves the others
(`Query.run_in_period`).
-/

namespace Cuaderno

namespace Dashboard

def hasMoment (item : Item) (id : String) (catalog : Catalog) (clock : Clock) : Bool :=
  match stored item id catalog clock with
  | .ok (_, some (.moment _)) => true
  | _ => false

variable {item : Item} {id : String} {catalog : Catalog} {clock : Clock}

private theorem known_of_stored {known : Bool} {v : Value}
    (h : stored item id catalog clock = .ok (known, some v)) : known = true := by
  unfold stored at h
  split_ifs at h
  case neg =>
    split at h
    · obtain ⟨own, -, h⟩ := Outcome.bind_eq_ok.1 h
      cases h
      rfl
    · simp only [Except.ok.injEq, Prod.mk.injEq] at h
      rw [← h.1, h.2]
      rfl
  -- the title, the type and the two moments are always known
  all_goals
    cases h
    rfl

private theorem stored_of_hasMoment (h : hasMoment item id catalog clock = true) :
    ∃ m, stored item id catalog clock = .ok (true, some (.moment m)) := by
  unfold hasMoment at h
  split at h
  · rename_i known m hstored
    cases known_of_stored hstored
    exact ⟨m, hstored⟩
  · cases h

end Dashboard

/-- Whether a document is one that bounds a period: null, a text, a day or a stamp. -/
def Document.IsBound : Document → Prop
  | .null | .text _ | .date _ | .stamp _ => True
  | _ => False

/-- A period as conditions on its field: not before its start, and not behind its end. -/
def Period.conditions (p : Period) : List Condition :=
  (if p.start.isNull then [] else [⟨p.field, .atLeast, p.start⟩]) ++
    (if p.stop.isNull then [] else [⟨p.field, .atMost, p.stop⟩])

namespace Period

variable {p : Period} {item : Item} {catalog : Catalog} {clock : Clock}

private theorem comparand_of_isBound {d : Document} (h : d.IsBound) : d.comparand = d := by
  cases d with
  | value v => exact h.elim
  | _ => rfl

section Bounds

variable {d : Document} {m : Moment}
  (hstored : Dashboard.stored item p.field catalog clock = .ok (true, some (.moment m)))

include hstored

private theorem startsBy_eq (hd : d.IsBound) : startsBy d m clock =
    if d.isNull then .ok true
    else Dashboard.holds item p.field (some .atLeast) d catalog clock := by
  simp only [startsBy, Dashboard.holds, hstored, Outcome.ok_bind, comparand_of_isBound hd]
  rfl

private theorem endsAfter_eq (hd : d.IsBound) : endsAfter d m clock =
    if d.isNull then .ok true
    else Dashboard.holds item p.field (some .atMost) d catalog clock := by
  simp only [endsAfter, Dashboard.holds, hstored, Outcome.ok_bind, comparand_of_isBound hd]
  rfl

end Bounds

section Tests

variable {α : Type} {test : α → Except Fault Bool}

private theorem allM_append (as bs : List α) : (as ++ bs).allM test = do
    if ← as.allM test then bs.allM test else return false := by
  induction as with
  | nil => rfl
  | cons a as ih =>
    rw [List.cons_append, List.allM, List.allM, ih]
    cases test a with
    | error e => rfl
    | ok b => cases b <;> rfl

private theorem allM_unless (absent : Bool) (a : α) :
    (if absent then [] else [a]).allM test = if absent then .ok true else test a := by
  cases absent with
  | true => rfl
  | false =>
    simp only [List.allM, Bool.false_eq_true, if_false]
    cases test a with
    | error e => rfl
    | ok b => cases b <;> rfl

private theorem both_eq_ok_true {x y : Except Fault Bool} :
    (do if ← x then y else return false) = .ok true ↔ x = .ok true ∧ y = .ok true := by
  cases x with
  | error e => simp
  | ok b => cases b <;> simp

end Tests

/-- For an item with a date, a period is met like the conditions that it comes to, one after the
other: with the same answer, or with the same fault. It lies in the period when it is not before
the start and not behind the end. -/
theorem holds_as_conditions (hstart : p.start.IsBound) (hstop : p.stop.IsBound)
    (hdated : Dashboard.hasMoment item p.field catalog clock = true) :
    p.holds item catalog clock = p.conditions.allM (·.holds item catalog clock) ∧
      (p.holds item catalog clock = .ok true ↔
        (p.start = .null ∨
          Dashboard.holds item p.field (some .atLeast) p.start catalog clock = .ok true) ∧
        (p.stop = .null ∨
          Dashboard.holds item p.field (some .atMost) p.stop catalog clock = .ok true)) := by
  obtain ⟨m, hstored⟩ := Dashboard.stored_of_hasMoment hdated
  have hboth : p.holds item catalog clock = do
      if ← startsBy p.start m clock then endsAfter p.stop m clock else return false := by
    simp only [holds, hstored, Outcome.ok_bind]
  rw [startsBy_eq hstored hstart, endsAfter_eq hstored hstop] at hboth
  have hunless (d : Document) (x : Except Fault Bool) :
      (if d.isNull then .ok true else x) = .ok true ↔ d = .null ∨ x = .ok true := by
    cases d <;> simp [Document.isNull]
  constructor
  · rw [hboth, conditions, allM_append, allM_unless, allM_unless]
    rfl
  · rw [hboth, both_eq_ok_true, hunless, hunless]

open Dashboard (dueTasks taskDue today hasMoment)

/-- From an hour before midnight, written in another zone, to the end of this week. -/
def dueSoon : Period where
  field := "due"
  start := .stamp ⟨⟨today.date, ⟨3600000000, by decide⟩⟩, some 7200000000⟩
  stop := .text "@esta_semana"

theorem holds_as_conditions_taskDue :
    dueSoon.holds (taskDue "hoy") dueTasks ⟨some ⟨today, none⟩, today⟩ =
        dueSoon.conditions.allM (·.holds (taskDue "hoy") dueTasks ⟨some ⟨today, none⟩, today⟩) ∧
      dueSoon.holds (taskDue "hoy") dueTasks ⟨some ⟨today, none⟩, today⟩ = .ok true := by
  have hdated : hasMoment (taskDue "hoy") dueSoon.field dueTasks ⟨some ⟨today, none⟩, today⟩ =
      true := by
    decide +kernel
  obtain ⟨hconditions, hbetween⟩ := holds_as_conditions (p := dueSoon) trivial trivial hdated
  refine ⟨hconditions, hbetween.2 ⟨.inr ?_, .inr ?_⟩⟩
  · decide +kernel
  · decide +kernel

end Period

/-- Whether a bound is there and writes no date. -/
def Document.IsUnreadable (d : Document) (clock : Clock) : Prop :=
  d ≠ .null ∧ d.span? clock = .ok none

/-- Whether a bound of a period is there and writes no date. -/
def Period.IsUnreadable (p : Period) (clock : Clock) : Prop :=
  p.start.IsUnreadable clock ∨ p.stop.IsUnreadable clock

namespace Period

variable {p : Period} {item : Item} {catalog : Catalog} {clock : Clock} {b : Bool}

/-- An item without a date is in a period, whatever the bounds are. -/
theorem eq_true_of_undated (hb : p.holds item catalog clock = .ok b)
    (hundated : Dashboard.hasMoment item p.field catalog clock = false) : b = true := by
  obtain ⟨⟨known, v⟩, hstored, hb⟩ := Outcome.bind_eq_ok.1 hb
  rw [Dashboard.hasMoment, hstored] at hundated
  cases v with
  | none => exact (Except.ok.inj hb).symm
  | some v =>
    cases v with
    | moment m => cases hundated
    | _ => exact (Except.ok.inj hb).symm

/-- No item with a date is in a period with a bound that cannot be read. -/
theorem eq_false_of_isUnreadable (hb : p.holds item catalog clock = .ok b)
    (hunreadable : p.IsUnreadable clock)
    (hdated : Dashboard.hasMoment item p.field catalog clock = true) : b = false := by
  have hnot {d : Document} (hd : d.IsUnreadable clock) : d.isNull = false := by
    cases d with
    | null => exact absurd rfl hd.1
    | _ => rfl
  obtain ⟨m, hstored⟩ := Dashboard.stored_of_hasMoment hdated
  simp only [holds, hstored, Outcome.ok_bind] at hb
  obtain ⟨starts, hstarts, hb⟩ := Outcome.bind_eq_ok.1 hb
  cases starts with
  | false =>
    cases hb
    rfl
  | true =>
    rcases hunreadable with hstart | hstop
    · simp [startsBy, hnot hstart, hstart.2] at hstarts
    · simpa [endsAfter, hnot hstop, hstop.2] using hb.symm

/-- The items in a period with a bound that cannot be read are those without a date. -/
theorem affirms_of_isUnreadable (hb : p.holds item catalog clock = .ok b)
    (hunreadable : p.IsUnreadable clock) :
    affirms (p.holds item catalog clock) =
      !Dashboard.hasMoment item p.field catalog clock := by
  rw [hb, affirms]
  cases hdated : Dashboard.hasMoment item p.field catalog clock with
  | true => rw [eq_false_of_isUnreadable hb hunreadable hdated]; rfl
  | false => rw [eq_true_of_undated hb hdated]; rfl

end Period

private theorem exists_of_filterAuxM {test : Item → Except Fault Bool} {items done kept : List Item}
    (h : items.filterAuxM test done = .ok kept) : ∀ item ∈ items, ∃ b, test item = .ok b := by
  induction items generalizing done with
  | nil => simp
  | cons first items ih =>
    obtain ⟨b, hb, hrest⟩ := Outcome.bind_eq_ok.1 h
    intro item hitem
    rcases List.mem_cons.1 hitem with rfl | hitem
    · exact ⟨b, hb⟩
    · exact ih hrest item hitem

private theorem exists_of_keep {test : Item → Except Fault Bool} {items kept : List Item}
    (h : keep test items = .ok kept) : ∀ item ∈ items, ∃ b, test item = .ok b := by
  obtain ⟨done, hdone, -⟩ := Outcome.bind_eq_ok.1 h
  exact exists_of_filterAuxM hdone

namespace Query

open Dashboard (hasMoment)

variable {q : Query} {p : Period} {catalog : Catalog} {items found : List Item} {clock : Clock}
  {days : Int}

/-- The period of a query is looked at last. -/
theorem exists_before_period (hp : q.period = some p)
    (hrun : q.run catalog items clock days = .ok found) :
    ∃ now before kept, clock.now = .ok now ∧
      { q with period := none }.kept catalog items clock days = .ok before ∧
      keep (fun item => p.holds item catalog (clock.at now)) before = .ok kept ∧
      found = Dashboard.sortItems kept q.sortBy q.direction := by
  obtain ⟨kept, hkept, hfound⟩ := Outcome.bind_eq_ok.1 hrun
  cases hfound
  obtain ⟨now, hnow, hkept⟩ := Outcome.bind_eq_ok.1 hkept
  obtain ⟨first, hfirst, hkept⟩ := Outcome.bind_eq_ok.1 hkept
  obtain ⟨before, hbefore, hkept⟩ := Outcome.bind_eq_ok.1 hkept
  simp only [inPeriod, hp] at hkept
  refine ⟨now, before, kept, hnow, ?_, hkept, rfl⟩
  refine Outcome.bind_eq_ok.2 ⟨now, hnow, Outcome.bind_eq_ok.2 ⟨first, hfirst, ?_⟩⟩
  exact Outcome.bind_eq_ok.2 ⟨before, hbefore, rfl⟩

/-- What a query with a period finds among the items that it keeps before it looks at the period:
all items without a date, and no others when a bound of the period cannot be read, so that it finds
nothing exactly when each item has a date. -/
structure FindsInPeriod (q : Query) (p : Period) (catalog : Catalog) (clock : Clock)
    (before found : List Item) : Prop where
  undated : ∀ item ∈ before, hasMoment item p.field catalog clock = false →
    found.count item = before.count item
  unreadable : p.IsUnreadable clock → found =
    Dashboard.sortItems (before.filter fun item => !hasMoment item p.field catalog clock) q.sortBy
      q.direction
  nothing : p.IsUnreadable clock →
    (found = [] ↔ ∀ item ∈ before, hasMoment item p.field catalog clock = true)

private theorem findsInPeriod_of_keep {before kept : List Item}
    (hkept : keep (fun item => p.holds item catalog clock) before = .ok kept) :
    q.FindsInPeriod p catalog clock before (Dashboard.sortItems kept q.sortBy q.direction) := by
  have hanswered := exists_of_keep hkept
  rw [keep_eq hanswered, Except.ok.injEq] at hkept
  have hperm := Dashboard.perm_sortItems kept q.sortBy q.direction
  have hundated (hunreadable : p.IsUnreadable clock) :
      kept = before.filter fun item => !hasMoment item p.field catalog clock := by
    rw [← hkept]
    refine List.filter_congr fun item hitem => ?_
    obtain ⟨b, hb⟩ := hanswered item hitem
    exact Period.affirms_of_isUnreadable hb hunreadable
  refine ⟨fun item hitem hitemUndated => ?_, fun hunreadable => ?_, fun hunreadable => ?_⟩
  · obtain ⟨b, hb⟩ := hanswered item hitem
    rw [hperm.count_eq, ← hkept]
    apply List.count_filter
    rw [hb, Period.eq_true_of_undated hb hitemUndated]
    rfl
  · rw [hundated hunreadable]
  · rw [← List.length_eq_zero_iff, hperm.length_eq, List.length_eq_zero_iff, hundated hunreadable,
      List.filter_eq_nil_iff]
    simp

/-- Among the items that a query would select without its period, it finds those without a date, and
no others when a bound of the period cannot be read. -/
theorem run_in_period (hp : q.period = some p) (hrun : q.run catalog items clock days = .ok found) :
    ∃ now before, clock.now = .ok now ∧
      { q with period := none }.kept catalog items clock days = .ok before ∧
      q.FindsInPeriod p catalog (clock.at now) before found := by
  obtain ⟨now, before, kept, hnow, hbefore, hkept, rfl⟩ := exists_before_period hp hrun
  exact ⟨now, before, hnow, hbefore, findsInPeriod_of_keep hkept⟩

open Dashboard (dueTasks taskDue today)

def dueFrom (start : Document) : Query where
  period := some ⟨"due", start, .null⟩

theorem run_in_period_dueFrom :
    ∃ now before, Clock.now ⟨some ⟨today, none⟩, today⟩ = .ok now ∧
      { dueFrom (.text "pronto") with period := none }.kept dueTasks [taskDue "hoy", undatedTask]
        ⟨some ⟨today, none⟩, today⟩ 7 = .ok before ∧
      (dueFrom (.text "pronto")).FindsInPeriod ⟨"due", .text "pronto", .null⟩ dueTasks
        (Clock.at ⟨some ⟨today, none⟩, today⟩ now) before [undatedTask] := by
  have hrun : (dueFrom (.text "pronto")).run dueTasks [taskDue "hoy", undatedTask]
      ⟨some ⟨today, none⟩, today⟩ 7 = .ok [undatedTask] := by
    decide +kernel
  exact run_in_period rfl hrun

/-- A text that writes no date stands for the start of a period. A task with a day is not selected,
but one without is. -/
theorem run_keeps_undated :
    Document.IsUnreadable (.text "pronto") ⟨some ⟨today, none⟩, today⟩ ∧
      (dueFrom (.text "pronto")).run dueTasks [taskDue "hoy"] ⟨some ⟨today, none⟩, today⟩ 7 =
        .ok [] ∧
      (dueFrom (.text "pronto")).run dueTasks [undatedTask] ⟨some ⟨today, none⟩, today⟩ 7 =
        .ok [undatedTask] := by
  refine ⟨⟨by simp, ?_⟩, ?_, ?_⟩
  all_goals decide +kernel

end Query

end Cuaderno
