import Cuaderno.Proofs.Calendar.Forward
import Cuaderno.Proofs.Dashboard.Total

/-!
# One order behind six comparisons

Equality and the four comparisons by order are evaluated apart from each other, and read the
document that a value is compared with each for itself. They still agree: `comparisons_agree` says
that of less, equal and greater exactly one is met, and that the other three are put together from
these. A moment is compared with a span of time, which it can lie before, in or behind, because no
span ends before it starts.
-/

namespace Cuaderno

/-- The span of time that a document stands for starts before it ends. -/
theorem Document.start_le_stop {d : Document} {clock : Clock} {s : Span}
    (h : d.span? clock = .ok (some s)) : s.start ≤ s.stop := by
  cases d with
  | stamp t =>
    obtain ⟨m, -, hs⟩ := Outcome.bind_eq_ok.1 h
    cases hs
    exact Span.start_le_stop_ofMoment m
  | date day =>
    cases h
    exact Span.start_le_stop_ofDay day
  | text text => exact Written.start_le_stop h
  | _ => cases h

private theorem Document.comparand_isNull (d : Document) : d.comparand.isNull = d.isNull := by
  cases d with
  | value v => cases v <;> rfl
  | _ => rfl

namespace Dashboard

/-- The answers to the six comparisons fit together: the value is less, equal or greater, and only
one of them, and the other three say which of these it is or is not. -/
structure Agree (answer : Operator → Bool) : Prop where
  one : [Operator.less, .equals, .greater].countP answer = 1
  notEquals : answer .notEquals = !answer .equals
  atLeast : answer .atLeast = (answer .greater || answer .equals)
  atMost : answer .atMost = (answer .less || answer .equals)

/-- What the six comparisons answer when it is known whether a value equals a document, and how it
compares with it by order. -/
def answerTo (equals : Bool) (ordered : Comparison → Bool) : Operator → Bool
  | .equals => equals
  | .notEquals => !equals
  | .greater => ordered .greater
  | .less => ordered .less
  | .atLeast => ordered .atLeast
  | .atMost => ordered .atMost
  | _ => false

/-- The answers fit together when nothing is both less than the start and greater than the end of
what it is compared with, and equals what lies between them. -/
theorem agree_answerTo {equals : Bool} {ordered : Comparison → Bool}
    (hless : ordered .less = !ordered .atLeast) (hgreater : ordered .greater = !ordered .atMost)
    (hequals : equals = (ordered .atLeast && ordered .atMost))
    (hends : (ordered .atLeast || ordered .atMost) = true) : Agree (answerTo equals ordered) := by
  refine ⟨?_, rfl, ?_, ?_⟩
  -- the bounds leave three cases: before, between and behind
  all_goals
    simp only [List.countP_cons, List.countP_nil, answerTo, hless, hgreater, hequals]
    revert hends
    cases ordered .atLeast <;> cases ordered .atMost <;> simp

/-- A moment lies before a span, in it or behind it. -/
theorem agree_ofMoment {s : Span} (h : s.start ≤ s.stop) (m : Moment) :
    Agree (answerTo (s.contains m) (·.ofMoment m s)) := by
  rw [Moment.le_def] at h
  have hnot (a b : Moment) : decide (a < b) = !decide (b ≤ a) := by
    rw [← decide_not, decide_eq_decide, Moment.lt_def, Moment.le_def]
    omega
  apply agree_answerTo
  · exact hnot m s.start
  · exact hnot s.stop m
  · rfl
  · simp only [Comparison.ofMoment, Bool.or_eq_true, decide_eq_true_eq, Moment.le_def]
    omega

private theorem agree_ofNumbers {x y : Number} (hx : x ≠ .nan) (hy : y ≠ .nan) :
    Agree (answerTo (x.eq y) (·.ofNumbers x y)) := by
  have htrichotomy := Number.lt_trichotomy hx hy
  have hsymm := Number.eq_symm y x
  apply agree_answerTo
  all_goals simp only [Comparison.ofNumbers, Number.le, hsymm]
  all_goals rcases htrichotomy with ⟨hlt, heq, hgt⟩ | ⟨hlt, heq, hgt⟩ | ⟨hlt, heq, hgt⟩
  all_goals simp [hlt, heq, hgt]

/-- Whether a document can be read as what a value is: as a span of time or as a number. -/
def reads (v : Value) (d : Document) (clock : Clock) : Except Fault Bool :=
  match v with
  | .moment _ => do return (← d.span? clock).isSome
  | .number _ => do return (← d.number?).isSome
  | _ => .ok false

/-- Whether a value has a place in an order with a document: it is a moment, or both are numbers and
not `nan`. -/
inductive HasOrder : Value → Document → Prop
  | moment (m : Moment) (d : Document) : HasOrder (.moment m) d
  | number {x : Number} {d : Document} (own : x ≠ .nan) (other : d.number? ≠ .ok (some .nan)) :
      HasOrder (.number x) d

variable {v : Value} {d : Document} {clock : Clock} {op : Operator}

/-- When equality and order read a document in one way, all comparisons answer from this reading. -/
theorem meets_of_reading {α : Type} {reading : Except Fault (Option α)} {same : α → Bool}
    {ordered : Comparison → α → Bool}
    (hequality : equality (some v) d clock = do return (← reading).map same)
    (hcompare : ∀ c, compare c (some v) d clock = do return (← reading).any (ordered c))
    (hop : Compares op) : meets op (some v) d clock = do
      return (← reading).any fun a => answerTo (same a) (ordered · a) op := by
  cases op with
  | contains | isEmpty | notEmpty => exact absurd hop (by decide)
  | greater | less | atLeast | atMost => exact hcompare _
  | equals | notEquals =>
    rw [meets, hequality]
    cases reading with
    | error f => rfl
    | ok a? =>
      cases a? with
      | none => rfl
      | some a =>
        simp only [Outcome.ok_bind, Outcome.pure_eq_ok, Option.map_some, Option.any_some, answerTo]
        cases same a <;> rfl

private theorem meets_moment (hnull : d.isNull = false) (m : Moment) (hop : Compares op) :
    meets op (some (.moment m)) d clock = do
      return (← d.span? clock).any fun s => answerTo (s.contains m) (·.ofMoment m s) op := by
  refine meets_of_reading ?_ (fun _ => rfl) hop
  rw [equality, hnull]
  rfl

private theorem meets_number (hnull : d.isNull = false) (x : Number) (hop : Compares op) :
    meets op (some (.number x)) d clock = do
      return (← d.number?).any fun y => answerTo (x.eq y) (·.ofNumbers x y) op := by
  refine meets_of_reading ?_ (fun _ => rfl) hop
  rw [equality, hnull]
  rfl

/-- What the six comparisons of an item with a document say, given whether the document can be
read: all of them fail, none is met, or their answers fit together. -/
structure Decides (item : Item) (id : String) (d : Document) (catalog : Catalog) (clock : Clock)
    (readable : Except Fault Bool) : Prop where
  fails : ∀ f, readable = .error f → ∀ op, Compares op →
    holds item id (some op) d catalog clock = .error f
  unmet : readable = .ok false → ∀ op, Compares op →
    holds item id (some op) d catalog clock = .ok false
  agrees : readable = .ok true → ∃ answer, Agree answer ∧ ∀ op, Compares op →
    holds item id (some op) d catalog clock = .ok (answer op)

private theorem decides_of_reading {α : Type} {reading : Except Fault (Option α)}
    {answer : α → Operator → Bool} {item : Item} {id : String} {catalog : Catalog}
    (hholds : ∀ op, Compares op → holds item id (some op) d catalog clock = do
      return (← reading).any (answer · op))
    (hagree : ∀ a, reading = .ok (some a) → Agree (answer a)) :
    Decides item id d catalog clock (do return (← reading).isSome) := by
  cases reading with
  | error f =>
    refine ⟨?_, fun h => ?_, fun h => ?_⟩
    · rintro _ ⟨⟩ op hop
      exact hholds op hop
    · cases h
    · cases h
  | ok a? =>
    cases a? with
    | none =>
      refine ⟨fun _ h => ?_, fun _ => hholds, fun h => ?_⟩
      · cases h
      · cases h
    | some a =>
      refine ⟨fun _ h => ?_, fun h => ?_, fun _ => ⟨answer a, hagree a rfl, hholds⟩⟩
      · cases h
      · cases h

/-- A moment or a number that an item has under an id is compared with a document in one order: if
the document can be read, the answers of the six comparisons fit together, and if not, none is
met. -/
theorem comparisons_agree {item : Item} {id : String} {catalog : Catalog} (hnull : d ≠ .null)
    (hstored : stored item id catalog clock = .ok (true, some v))
    (horder : HasOrder v d.comparand) :
    Decides item id d catalog clock (reads v d.comparand clock) := by
  have hisNull : d.comparand.isNull = false := by
    rw [Document.comparand_isNull]
    cases d with
    | null => exact absurd rfl hnull
    | _ => rfl
  have hholds (op : Operator) : holds item id (some op) d catalog clock =
      meets op (some v) d.comparand clock := by
    rw [holds, hstored]
    rfl
  cases horder with
  | moment m _ =>
    have hagree (s : Span) (hs : d.comparand.span? clock = .ok (some s)) :
        Agree (answerTo (s.contains m) (·.ofMoment m s)) :=
      agree_ofMoment (Document.start_le_stop hs) m
    refine decides_of_reading (fun op hop => ?_) hagree
    rw [hholds, meets_moment hisNull m hop]
  | @number x _ hx hother =>
    have hagree (y : Number) (hy : d.comparand.number? = .ok (some y)) :
        Agree (answerTo (x.eq y) (·.ofNumbers x y)) := by
      apply agree_ofNumbers hx
      rintro rfl
      exact hother hy
    refine decides_of_reading (fun op hop => ?_) hagree
    rw [hholds, meets_number hisNull x hop]

/-- A shift of the first day of all is compared with a week, and its three hours with a number that
is written with a comma. -/
theorem comparisons_agree_morningShift :
    (∃ answer, Agree answer ∧ ∀ op, Compares op →
        holds morningShift "updatedAt" (some op) (.text "@esta_semana") shifts evaluationClock =
          .ok (answer op)) ∧
      ∃ answer, Agree answer ∧ ∀ op, Compares op →
        holds morningShift "hours" (some op) (.text "2,5") shifts evaluationClock =
          .ok (answer op) := by
  have hupdated : stored morningShift "updatedAt" shifts evaluationClock =
      .ok (true, some (.moment Moment.first)) := rfl
  have hhours : stored morningShift "hours" shifts evaluationClock =
      .ok (true, some (.number (Number.ofNat 3))) := by
    decide +kernel
  constructor
  · have horder : HasOrder (.moment Moment.first) (Document.text "@esta_semana").comparand :=
      .moment _ _
    exact (comparisons_agree (by decide) hupdated horder).agrees (by decide +kernel)
  · have horder : HasOrder (.number (Number.ofNat 3)) (Document.text "2,5").comparand :=
      .number (by decide +kernel) (by decide +kernel)
    exact (comparisons_agree (by decide) hhours horder).agrees (by decide +kernel)

end Dashboard

end Cuaderno
