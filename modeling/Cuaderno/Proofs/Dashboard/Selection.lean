import Cuaderno.Dashboard.Selection
import Cuaderno.Proofs.Dashboard.Order
import Cuaderno.Proofs.Outcome

/-!
# What a query selects

Each step of a query looks at the items that the steps before it have kept, but only at one item at
a time: when nothing that a query asks about the items raises a fault, it keeps an item or does not,
whatever the other items are (`Query.kept_eq`). With a sort that leaves sorted items alone, a query
that is run on its own result gives that result again (`Query.run_spec`).
-/

namespace Cuaderno

def affirms : Except Fault Bool → Bool
  | .ok b => b
  | .error _ => false

private theorem filterAuxM_eq {test : Item → Except Fault Bool} (kept : List Item)
    {items : List Item}
    (h : ∀ item ∈ items, ∃ b, test item = .ok b) :
    items.filterAuxM test kept =
      .ok ((items.filter fun item => affirms (test item)).reverse ++ kept) := by
  induction items generalizing kept with
  | nil => rfl
  | cons item items ih =>
    have hrest := fun kept => ih kept fun other hother => h other (List.mem_cons_of_mem _ hother)
    obtain ⟨b, hb⟩ := h item (List.mem_cons_self ..)
    rw [List.filterAuxM, hb, Outcome.ok_bind, hrest, List.filter_cons]
    cases b with
    | false => simp [hb, affirms]
    | true => simp [hb, affirms]

theorem keep_eq {test : Item → Except Fault Bool} {items : List Item}
    (h : ∀ item ∈ items, ∃ b, test item = .ok b) :
    keep test items = .ok (items.filter fun item => affirms (test item)) := by
  rw [keep, List.filterM, filterAuxM_eq [] h]
  simp

namespace Query

variable {q : Query} {catalog : Catalog} {items : List Item} {clock : Clock} {now : Moment}
  {days : Int}

/-- Nothing that a query asks about some items raises a fault: there is a rule of its preset, and
each item meets each condition and the period or does not. -/
structure Answered (q : Query) (catalog : Catalog) (items : List Item) (clock : Clock)
    (now : Moment) (days : Int) : Prop where
  preset : ∀ p, q.preset = some p → ∃ rule, p.rule catalog now days = .ok rule
  conditions : ∀ item ∈ items, ∀ c ∈ q.conditions, ∃ b, c.holds item catalog (clock.at now) = .ok b
  period : ∀ item ∈ items, ∀ p, q.period = some p →
    ∃ b, p.holds item catalog (clock.at now) = .ok b

theorem Answered.subset (h : q.Answered catalog items clock now days) {others : List Item}
    (hsub : others ⊆ items) : q.Answered catalog others clock now days where
  preset := h.preset
  conditions item hitem := h.conditions item (hsub hitem)
  period item hitem := h.period item (hsub hitem)

def meetsPreset (q : Query) (catalog : Catalog) (now : Moment) (days : Int) (item : Item) : Bool :=
  q.preset.all fun p =>
    match p.rule catalog now days with
    | .ok rule => rule item
    | .error _ => false

def meetsConditions (q : Query) (catalog : Catalog) (clock : Clock) (item : Item) : Bool :=
  q.conditions.all fun c => affirms (c.holds item catalog clock)

def meetsPeriod (q : Query) (catalog : Catalog) (clock : Clock) (item : Item) : Bool :=
  q.period.all fun p => affirms (p.holds item catalog clock)

def keeps (q : Query) (catalog : Catalog) (clock : Clock) (now : Moment) (days : Int)
    (item : Item) : Bool :=
  q.keepsType item.typeId && q.meetsPreset catalog now days item &&
    q.meetsConditions catalog (clock.at now) item && q.meetsPeriod catalog (clock.at now) item

private theorem ofPreset_eq
    (h : ∀ p, q.preset = some p → ∃ rule, p.rule catalog now days = .ok rule) :
    q.ofPreset catalog items now days = .ok (items.filter (q.meetsPreset catalog now days)) := by
  unfold ofPreset meetsPreset
  cases hp : q.preset with
  | none => simp
  | some p =>
    obtain ⟨rule, hrule⟩ := h p hp
    simp [hrule, Except.map]

/-- Items that meet conditions one after the other are those that meet all of them. -/
theorem foldlM_keep_eq (conditions : List Condition)
    (h : ∀ item ∈ items, ∀ c ∈ conditions, ∃ b, c.holds item catalog clock = .ok b) :
    conditions.foldlM (fun items c => keep (fun item => c.holds item catalog clock) items) items =
      .ok (items.filter fun item =>
        conditions.all fun c => affirms (c.holds item catalog clock)) := by
  induction conditions generalizing items with
  | nil => simp
  | cons c conditions ih =>
    have hc : ∀ item ∈ items, ∃ b, c.holds item catalog clock = .ok b :=
      fun item hitem => h item hitem c (List.mem_cons_self ..)
    have hrest : ∀ item ∈ items.filter (fun item => affirms (c.holds item catalog clock)),
        ∀ d ∈ conditions, ∃ b, d.holds item catalog clock = .ok b := by
      intro item hitem d hd
      exact h item (List.mem_filter.1 hitem).1 d (List.mem_cons_of_mem _ hd)
    rw [List.foldlM_cons, keep_eq hc, Outcome.ok_bind, ih hrest, List.filter_filter]
    simp only [List.all_cons, Bool.and_comm]

private theorem inPeriod_eq
    (h : ∀ item ∈ items, ∀ p, q.period = some p → ∃ b, p.holds item catalog clock = .ok b) :
    q.inPeriod catalog items clock = .ok (items.filter (q.meetsPeriod catalog clock)) := by
  unfold inPeriod meetsPeriod
  cases hp : q.period with
  | none => simp
  | some p => exact keep_eq fun item hitem => h item hitem p hp

private theorem kept_eq (hnow : clock.now = .ok now) (h : q.Answered catalog items clock now days) :
    q.kept catalog items clock days = .ok (items.filter (q.keeps catalog clock now days)) := by
  have hconditions : ∀ item ∈ (items.filter fun item => q.keepsType item.typeId).filter
      (q.meetsPreset catalog now days), ∀ c ∈ q.conditions,
      ∃ b, c.holds item catalog (clock.at now) = .ok b := by
    intro item hitem
    exact h.conditions item (List.mem_filter.1 (List.mem_filter.1 hitem).1).1
  have hperiod : ∀ item ∈ ((items.filter fun item => q.keepsType item.typeId).filter
      (q.meetsPreset catalog now days)).filter (q.meetsConditions catalog (clock.at now)),
      ∀ p, q.period = some p → ∃ b, p.holds item catalog (clock.at now) = .ok b := by
    intro item hitem
    exact h.period item
      (List.mem_filter.1 (List.mem_filter.1 (List.mem_filter.1 hitem).1).1).1
  simp only [kept, hnow, Outcome.ok_bind]
  rw [ofPreset_eq h.preset, Outcome.ok_bind, foldlM_keep_eq q.conditions hconditions,
    Outcome.ok_bind]
  refine (inPeriod_eq hperiod).trans ?_
  simp only [List.filter_filter]
  congr 2
  funext item
  simp only [keeps, meetsConditions, Bool.and_comm, Bool.and_left_comm, Bool.and_assoc]

theorem run_eq (hnow : clock.now = .ok now) (h : q.Answered catalog items clock now days) :
    q.run catalog items clock days =
      .ok (Dashboard.sortItems (items.filter (q.keeps catalog clock now days)) q.sortBy
        q.direction) := by
  rw [run, kept_eq hnow h]
  rfl

theorem perm_run (q : Query) (catalog : Catalog) (items : List Item) (clock : Clock) (now : Moment)
    (days : Int) :
    (Dashboard.sortItems (items.filter (q.keeps catalog clock now days)) q.sortBy q.direction).Perm
      (items.filter (q.keeps catalog clock now days)) :=
  Dashboard.perm_sortItems _ _ _

private theorem run_run (hnow : clock.now = .ok now) (h : q.Answered catalog items clock now days)
    (hordered : ∀ item ∈ items, Dashboard.sortKey? item q.sortBy ≠ some (.number .nan))
    {r : List Item} (hr : q.run catalog items clock days = .ok r) :
    q.run catalog r clock days = .ok r := by
  rw [run_eq hnow h, Except.ok.injEq] at hr
  have hperm := perm_run q catalog items clock now days
  rw [hr] at hperm
  have hmem : ∀ item ∈ r, item ∈ items ∧ q.keeps catalog clock now days item = true := by
    intro item hitem
    exact List.mem_filter.1 (hperm.mem_iff.1 hitem)
  have hall : r.filter (q.keeps catalog clock now days) = r :=
    List.filter_eq_self.2 fun item hitem => (hmem item hitem).2
  rw [run_eq hnow (h.subset fun item hitem => (hmem item hitem).1), hall, ← hr]
  refine congrArg Except.ok (Dashboard.sortItems_sortItems q.direction ?_)
  intro item hitem
  exact hordered item (List.mem_filter.1 hitem).1

private theorem run_of_perm (hnow : clock.now = .ok now)
    (h : q.Answered catalog items clock now days)
    {conditions : List Condition} (hperm : conditions.Perm q.conditions) :
    { q with conditions }.run catalog items clock days = q.run catalog items clock days := by
  have hother : { q with conditions }.Answered catalog items clock now days := by
    refine ⟨h.preset, ?_, h.period⟩
    intro item hitem c hc
    exact h.conditions item hitem c (hperm.mem_iff.1 hc)
  have hkeeps : { q with conditions }.keeps catalog clock now days =
      q.keeps catalog clock now days := by
    funext item
    have hmeets : { q with conditions }.meetsConditions catalog (clock.at now) item =
        q.meetsConditions catalog (clock.at now) item := hperm.all_eq
    rw [keeps, hmeets]
    rfl
  rw [run_eq hnow hother, run_eq hnow h, hkeeps]

/-- Whether a query keeps an item is seen from the item alone. -/
theorem run_singleton (hnow : clock.now = .ok now) (h : q.Answered catalog items clock now days)
    {item : Item} (hitem : item ∈ items) :
    q.run catalog [item] clock days =
      .ok (if q.keeps catalog clock now days item = true then [item] else []) := by
  have hone : [item] ⊆ items := by
    simpa using hitem
  have hperm := perm_run q catalog [item] clock now days
  rw [run_eq hnow (h.subset hone), Except.ok.injEq]
  by_cases hk : q.keeps catalog clock now days item = true
  · rw [if_pos hk]
    rw [List.filter_cons_of_pos hk, List.filter_nil] at hperm ⊢
    exact List.perm_singleton.1 hperm
  · rw [if_neg hk]
    rw [List.filter_cons_of_neg hk, List.filter_nil] at hperm ⊢
    exact List.perm_nil.1 hperm

/-- What a result has to do with the query that gave it: it is the result of the query on itself,
it does not depend on the order of the conditions, and an item occurs in it as often as among all
items, or not at all, as the query decides on that item alone. -/
structure Selects (q : Query) (catalog : Catalog) (items : List Item) (clock : Clock) (days : Int)
    (r : List Item) : Prop where
  run : q.run catalog items clock days = .ok r
  again : q.run catalog r clock days = .ok r
  reordered : ∀ conditions : List Condition, conditions.Perm q.conditions →
    { q with conditions }.run catalog items clock days = .ok r
  alone : ∀ item ∈ items,
    (q.run catalog [item] clock days = .ok [item] ∧ r.count item = items.count item) ∨
    (q.run catalog [item] clock days = .ok [] ∧ r.count item = 0)

/-- A query selects when nothing that it asks raises a fault and no key is what is no number. -/
theorem run_spec (hnow : clock.now = .ok now) (h : q.Answered catalog items clock now days)
    (hordered : ∀ item ∈ items, Dashboard.sortKey? item q.sortBy ≠ some (.number .nan)) :
    ∃ r, q.Selects catalog items clock days r := by
  have hr := run_eq hnow h
  refine ⟨_, hr, run_run hnow h hordered hr, fun conditions hperm => ?_, fun item hitem => ?_⟩
  · rw [run_of_perm hnow h hperm, hr]
  · rw [run_singleton hnow h hitem, (perm_run q catalog items clock now days).count_eq]
    by_cases hk : q.keeps catalog clock now days item = true
    · rw [if_pos hk]
      exact .inl ⟨rfl, List.count_filter hk⟩
    · rw [if_neg hk]
      refine .inr ⟨rfl, List.count_eq_zero.2 ?_⟩
      intro hmem
      exact hk (List.mem_filter.1 hmem).2

def doneTasks : Query where
  types := ["task"]
  preset := some .inbox
  conditions := [⟨"done", .equals, .bool true⟩, ⟨"updatedAt", .atLeast, .date Date.first⟩]
  period := some ⟨"createdAt", .null, .date Date.first⟩
  sortBy := "rank"

def task (id : String) (done : Bool) : Item where
  id := id
  typeId := "task"
  title := id
  content := ""
  properties := [("done", .flag done), ("rank", .number Number.zero)]
  tags := []
  links := []
  backlinks := []
  created := Moment.first
  updated := Moment.first
  embedding := none

theorem run_spec_doneTasks :
    ∃ r, doneTasks.Selects ⟨[], List.nodup_nil⟩ [task "a" true, task "b" false, task "a" true]
      ⟨none, Moment.first⟩ 7 r := by
  have htask : ∀ item ∈ [task "a" true, task "b" false, task "a" true],
      ∃ id done, item = task id done := by
    simp only [List.mem_cons, List.not_mem_nil, or_false]
    rintro item (rfl | rfl | rfl)
    · exact ⟨"a", true, rfl⟩
    · exact ⟨"b", false, rfl⟩
    · exact ⟨"a", true, rfl⟩
  apply @run_spec doneTasks _ _ _ Moment.first
  · rfl
  · refine ⟨?_, ?_, ?_⟩
    · intro p hp
      cases hp
      exact ⟨_, rfl⟩
    · intro item hitem c hc
      obtain ⟨id, done, rfl⟩ := htask item hitem
      rcases List.mem_pair.1 hc with rfl | rfl
      · exact ⟨_, rfl⟩
      · exact ⟨_, rfl⟩
    · intro item hitem p hp
      obtain ⟨id, done, rfl⟩ := htask item hitem
      cases hp
      exact ⟨_, rfl⟩
  · intro item hitem
    obtain ⟨id, done, rfl⟩ := htask item hitem
    have hkey : Dashboard.sortKey? (task id done) doneTasks.sortBy =
        some (.number Number.zero) := rfl
    rw [hkey]
    intro hnan
    exact Number.notNegative_zero.ne_nan (Dashboard.SortKey.number.inj (Option.some.inj hnan))

end Query

end Cuaderno
