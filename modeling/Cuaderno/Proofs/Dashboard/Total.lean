import Cuaderno.Dashboard.Condition
import Cuaderno.Dashboard.Period
import Cuaderno.Proofs.Calendar.Beyond
import Cuaderno.Proofs.Samples
import Mathlib.Algebra.Group.Int.Defs

/-!
# Conditions and periods without an answer

A condition on an unknown property or with an unreadable document is not met, and a bound that
cannot be read keeps no dated item. What is left are the faults of reading itself, and they are all
listed here (`Dashboard.Unanswered`, `Period.Unanswered`): a date outside the calendar, an integer
beyond the magnitudes that is compared with a number, and one that is too long to be compared as a
text. Evaluated in a year between the first and the last, everything else is answered
(`Dashboard.conditions_answer`).
-/

namespace Cuaderno

/-! ## Reading documents -/

namespace Document

def IsBeyond : Document → Prop
  | .stamp s => s.IsBeyond
  | .text s => Written.IsBeyond s.toList
  | _ => False

instance : (d : Document) → Decidable d.IsBeyond
  | .stamp s => inferInstanceAs (Decidable s.IsBeyond)
  | .text s => inferInstanceAs (Decidable (Written.IsBeyond s.toList))
  | .null | .bool _ | .int _ | .float _ | .list _ | .map _ | .date _ | .value _ => isFalse id

/-- Whether a document is an integer beyond the magnitudes of numbers. -/
def IsHuge (d : Document) : Prop := ∃ n, d = .int n ∧ Number.ofInt? n = none

variable {d : Document} {clock : Clock} {now : Moment} {fault : Fault}

theorem span?_eq_error (hnow : clock.now = .ok now) (hinner : now.date.IsInner) :
    d.span? clock = .error fault ↔ fault = .outOfRange ∧ d.IsBeyond := by
  cases d with
  | stamp s => simp [span?, IsBeyond, Outcome.bind_eq_error, Stamp.moment_eq_error]
  | text s => exact Written.span_eq_error hnow hinner
  | _ => simp [span?, IsBeyond]

theorem number?_eq_error : d.number? = .error fault ↔ fault = .outOfRange ∧ d.IsHuge := by
  unfold number? IsHuge
  -- What an integer is as a number makes no difference, and must not be computed.
  obtain ⟨toNumber, hnumber⟩ : ∃ f : Int → Option Number, Number.ofInt? = f := ⟨_, rfl⟩
  rw [hnumber]
  cases d with
  | int n => cases h : toNumber n <;> simp [h, eq_comm]
  | _ => simp

theorem spell_eq_error :
    d.spell = .error fault ↔ fault = .invalid .tooLong ∧ d.isWritable = false := by
  unfold spell
  cases d.isWritable <;> simp [eq_comm]

private theorem eq_null_of_isNull (h : d.isNull = true) : d = .null := by
  cases d with
  | null => rfl
  | _ => cases h

end Document

namespace Dashboard

/-! ## Stored values -/

/-- Whether a text that an item has under an id is a fault where it is read as a moment: it lies
outside the calendar, or it is a relative date that leaves the calendar on the day of the wall
clock. -/
structure IsLost (item : Item) (id : String) (catalog : Catalog) (wall : Moment) : Prop where
  own : id ∉ ["title", "type", "createdAt", "updatedAt"]
  temporal : ∃ p, catalog.property? item.typeId id = some p ∧ p.kind.isTemporal = true
  lost : ∃ s, item.value? id = some (.text s) ∧ (Written.IsBeyond s.toList ∨
    ∃ r, Relative.ofText? false s.toList = some r ∧ r.span? wall.date = none)

variable {item : Item} {id : String} {catalog : Catalog} {clock : Clock} {now : Moment}
  {fault : Fault} {d : Document} {v : Option Value}

theorem moment_wallOnly_eq_error {cs : List Char} :
    Written.moment cs clock.wallOnly = .error fault ↔ fault = .outOfRange ∧
      (Written.IsBeyond cs ∨
        ∃ r, Relative.ofText? false cs = some r ∧ r.span? clock.wall.date = none) := by
  have hwall : clock.wallOnly.now = .ok clock.wall := rfl
  have hrelative : Relative.resolve false cs clock.wallOnly = .error fault ↔
      fault = .outOfRange ∧
        ∃ r, Relative.ofText? false cs = some r ∧ r.span? clock.wall.date = none := by
    simp only [Relative.resolve_eq_error, hwall, reduceCtorEq, Except.ok.injEq, exists_eq_left',
      false_or]
    constructor
    · rintro ⟨r, hr, hfault, hspan⟩
      exact ⟨hfault, r, hr, hspan⟩
    · rintro ⟨hfault, r, hr, hspan⟩
      exact ⟨r, hr, hfault, hspan⟩
  rw [Written.moment_eq_error_iff, hrelative, ← and_or_left, or_comm]

theorem aligned_eq_error {v : Value} {p : Property} : aligned v p clock = .error fault ↔
    ∃ s, v = .text s ∧ p.kind.isTemporal = true ∧
      Written.moment s.toList clock.wallOnly = .error fault := by
  cases v with
  | text s =>
    cases hk : p.kind <;>
      simp [aligned, hk, PropertyKind.isTemporal, Outcome.bind_eq_error]
  | _ => simp [aligned]

theorem stored_eq_error : stored item id catalog clock = .error fault ↔
    fault = .outOfRange ∧ IsLost item id catalog clock.wall := by
  by_cases hown : id ∈ ["title", "type", "createdAt", "updatedAt"]
  -- What every item has is there as it is: nothing is read.
  · have hnot : ¬ IsLost item id catalog clock.wall := fun h => h.own hown
    simp only [List.mem_cons, List.not_mem_nil, or_false] at hown
    rcases hown with rfl | rfl | rfl | rfl <;> simp [stored, hnot]
  · have hlost : stored item id catalog clock = .error fault ↔
        ∃ v p, item.value? id = some v ∧ catalog.property? item.typeId id = some p ∧
          aligned v p clock = .error fault := by
      simp only [List.mem_cons, List.not_mem_nil, or_false, not_or] at hown
      simp only [stored, if_neg hown.1, if_neg hown.2.1, if_neg hown.2.2.1, if_neg hown.2.2.2]
      cases item.value? id with
      | none => simp
      | some v =>
        cases catalog.property? item.typeId id with
        | none => simp
        | some p => simp [Outcome.bind_eq_error]
    rw [hlost]
    constructor
    · rintro ⟨v, p, hv, hp, haligned⟩
      obtain ⟨s, rfl, htemporal, hmoment⟩ := aligned_eq_error.1 haligned
      obtain ⟨hfault, hlost⟩ := moment_wallOnly_eq_error.1 hmoment
      exact ⟨hfault, hown, ⟨p, hp, htemporal⟩, s, hv, hlost⟩
    · rintro ⟨hfault, -, ⟨p, hp, htemporal⟩, s, hv, hlost⟩
      exact ⟨_, p, hv, hp,
        aligned_eq_error.2 ⟨s, rfl, htemporal, moment_wallOnly_eq_error.2 ⟨hfault, hlost⟩⟩⟩

/-! ## Comparisons -/

/-- Whether a value is compared as a text: it is a text, some texts or some links. -/
def IsWords : Value → Prop
  | .text _ | .texts _ | .links _ => True
  | _ => False

/-- Whether an operator compares a value with what a document stands for. -/
def Compares (op : Operator) : Prop := op ∉ [.contains, .isEmpty, .notEmpty]

instance (op : Operator) : Decidable (Compares op) := inferInstanceAs (Decidable (op ∉ _))

/-- The faults of comparing a value with a document. -/
inductive Incomparable (d : Document) : Operator → Value → Fault → Prop
  | moment {op : Operator} {m : Moment} (compares : Compares op) (beyond : d.IsBeyond) :
      Incomparable d op (.moment m) .outOfRange
  | number {op : Operator} {x : Number} (compares : Compares op) (huge : d.IsHuge) :
      Incomparable d op (.number x) .outOfRange
  | words {op : Operator} {v : Value} (equality : op = .equals ∨ op = .notEquals)
      (words : IsWords v) (long : d.isWritable = false) : Incomparable d op v (.invalid .tooLong)
  | part {v : Value} (long : d.isWritable = false) :
      Incomparable d .contains v (.invalid .tooLong)

namespace Incomparable

variable {op : Operator} {w : Value}

theorem moment_iff (hop : Compares op) {m : Moment} :
    Incomparable d op (.moment m) fault ↔ fault = .outOfRange ∧ d.IsBeyond := by
  constructor
  · intro h
    cases h with
    | moment _ beyond => exact ⟨rfl, beyond⟩
    | words _ words _ => exact words.elim
    | part _ => exact absurd hop (by decide)
  · rintro ⟨rfl, beyond⟩
    exact .moment hop beyond

theorem number_iff (hop : Compares op) {x : Number} :
    Incomparable d op (.number x) fault ↔ fault = .outOfRange ∧ d.IsHuge := by
  constructor
  · intro h
    cases h with
    | number _ huge => exact ⟨rfl, huge⟩
    | words _ words _ => exact words.elim
    | part _ => exact absurd hop (by decide)
  · rintro ⟨rfl, huge⟩
    exact .number hop huge

private theorem not_flag (hop : Compares op) {b : Bool} : ¬ Incomparable d op (.flag b) fault := by
  intro h
  cases h with
  | words _ words _ => exact words
  | part _ => exact absurd hop (by decide)

theorem words_iff (hop : Compares op) (hw : IsWords w) : Incomparable d op w fault ↔
    (op = .equals ∨ op = .notEquals) ∧ fault = .invalid .tooLong ∧ d.isWritable = false := by
  constructor
  · intro h
    cases h with
    | moment _ _ | number _ _ => exact hw.elim
    | words equality _ long => exact ⟨equality, rfl, long⟩
    | part _ => exact absurd hop (by decide)
  · rintro ⟨hequality, rfl, hlong⟩
    exact .words hequality hw hlong

theorem contains_iff :
    Incomparable d .contains w fault ↔ fault = .invalid .tooLong ∧ d.isWritable = false := by
  constructor
  · intro h
    cases h with
    | moment compares _ | number compares _ => exact absurd compares (by decide)
    | words equality _ _ => cases equality <;> contradiction
    | part long => exact ⟨rfl, long⟩
  · rintro ⟨rfl, hlong⟩
    exact .part hlong

private theorem not_isNull (h : Incomparable d op w fault) : d.isNull = false := by
  cases d with
  | null =>
    cases h with
    | moment _ beyond => exact beyond.elim
    | number _ huge =>
      obtain ⟨n, hn, -⟩ := huge
      cases hn
    | words _ _ long | part long => cases long
  | _ => rfl

end Incomparable

section Inner

variable (hnow : clock.now = .ok now) (hinner : now.date.IsInner)

include hnow hinner

theorem equality_eq_error {op : Operator} (hop : op = .equals ∨ op = .notEquals) :
    equality v d clock = .error fault ↔ ∃ w ∈ v, Incomparable d op w fault := by
  have hcompares : Compares op := by
    rcases hop with rfl | rfl <;> decide
  by_cases hnull : d.isNull = true
  · simp only [equality, if_pos hnull, reduceCtorEq, false_iff]
    rintro ⟨w, -, h⟩
    rw [h.not_isNull] at hnull
    cases hnull
  · cases v with
    | none => simp [equality, hnull]
    | some w =>
      simp only [Option.mem_def, Option.some.injEq, exists_eq_left', equality, if_neg hnull]
      cases w with
      | moment m =>
        simp [Incomparable.moment_iff hcompares, Outcome.bind_eq_error,
          Document.span?_eq_error hnow hinner]
      | number x =>
        simp [Incomparable.number_iff hcompares, Outcome.bind_eq_error, Document.number?_eq_error]
      | flag b => simp [Incomparable.not_flag hcompares]
      | text s | texts items | links refs =>
        rw [Incomparable.words_iff hcompares]
        · simp [hop, Outcome.bind_eq_error, Document.spell_eq_error]
        · trivial

theorem compare_eq_error {c : Comparison} {op : Operator} (hop : Compares op)
    (hequality : ¬ (op = .equals ∨ op = .notEquals)) :
    compare c v d clock = .error fault ↔ ∃ w ∈ v, Incomparable d op w fault := by
  cases v with
  | none => simp [compare]
  | some w =>
    simp only [Option.mem_def, Option.some.injEq, exists_eq_left', compare]
    cases w with
    | moment m =>
      simp [Incomparable.moment_iff hop, Outcome.bind_eq_error,
        Document.span?_eq_error hnow hinner]
    | number x =>
      simp [Incomparable.number_iff hop, Outcome.bind_eq_error, Document.number?_eq_error]
    | flag b => simp [Incomparable.not_flag hop]
    | text s | texts items | links refs =>
      rw [Incomparable.words_iff hop]
      · simp [hequality]
      · trivial

end Inner

theorem containsText_eq_error :
    containsText v d = .error fault ↔ ∃ w ∈ v, Incomparable d .contains w fault := by
  cases v with
  | none => simp [containsText]
  | some w =>
    simp only [Option.mem_def, Option.some.injEq, exists_eq_left', Incomparable.contains_iff]
    by_cases hnull : d.isNull = true
    · rw [Document.eq_null_of_isNull hnull]
      simp [containsText, Document.isNull, Document.isWritable]
    · simp only [containsText, hnull, Option.isNone_some, Bool.or_self, Bool.false_eq_true,
        if_false, Outcome.bind_eq_error, Document.spell_eq_error]
      -- Once the document is spelled, every value has an answer.
      rw [or_iff_left]
      rintro ⟨part, -, h⟩
      cases w <;> cases h

theorem meets_eq_error (hnow : clock.now = .ok now) (hinner : now.date.IsInner) {op : Operator} :
    meets op v d clock = .error fault ↔ ∃ w ∈ v, Incomparable d op w fault := by
  cases op with
  | isEmpty | notEmpty =>
    simp only [meets, reduceCtorEq, false_iff]
    rintro ⟨w, -, h⟩
    cases h with
    | moment compares _ | number compares _ => exact absurd compares (by decide)
    | words equality _ _ => cases equality <;> contradiction
  | contains => exact containsText_eq_error
  | equals => simp [meets, Outcome.bind_eq_error, equality_eq_error hnow hinner (.inl rfl)]
  | notEquals => simp [meets, Outcome.bind_eq_error, equality_eq_error hnow hinner (.inr rfl)]
  | greater | less | atLeast | atMost =>
    exact compare_eq_error hnow hinner (by decide) (by decide)

/-! ## Conditions and periods -/

/-- Why a condition has no answer for an item, on the day of a wall clock: what the item has cannot
be read, or it cannot be compared. -/
inductive Unanswered (item : Item) (id : String) (op : Option Operator) (d : Document)
    (catalog : Catalog) (clock : Clock) : Fault → Prop
  | lost (lost : IsLost item id catalog clock.wall) :
      Unanswered item id op d catalog clock .outOfRange
  | incomparable {o : Operator} {w : Value} {fault : Fault} (known : op = some o)
      (stored : stored item id catalog clock = .ok (true, some w))
      (incomparable : Incomparable d.comparand o w fault) :
      Unanswered item id op d catalog clock fault

theorem holds_eq_error (hnow : clock.now = .ok now) (hinner : now.date.IsInner)
    {op : Option Operator} :
    holds item id op d catalog clock = .error fault ↔
      Unanswered item id op d catalog clock fault := by
  unfold holds
  rw [Outcome.bind_eq_error, stored_eq_error]
  constructor
  · rintro (⟨rfl, hlost⟩ | ⟨⟨known, v⟩, hstored, h⟩)
    · exact .lost hlost
    · cases known with
      | false => cases h
      | true =>
        cases op with
        | none => cases h
        | some o =>
          obtain ⟨w, hw, hincomparable⟩ := (meets_eq_error hnow hinner).1 h
          rw [Option.mem_def] at hw
          rw [hw] at hstored
          exact .incomparable rfl hstored hincomparable
  · intro h
    cases h with
    | lost hlost => exact .inl ⟨rfl, hlost⟩
    | incomparable known hstored hincomparable =>
      refine .inr ⟨_, hstored, ?_⟩
      subst known
      exact (meets_eq_error hnow hinner).2 ⟨_, rfl, hincomparable⟩

end Dashboard

/-- Why a period has no answer for an item: the date in its field cannot be read, or a bound lies
outside the calendar. The end does not count for a date that is not behind the start. -/
inductive Period.Unanswered (p : Period) (item : Item) (catalog : Catalog) (clock : Clock) :
    Fault → Prop
  | lost (lost : Dashboard.IsLost item p.field catalog clock.wall) :
      p.Unanswered item catalog clock .outOfRange
  | start {known : Bool} {m : Moment}
      (stored : Dashboard.stored item p.field catalog clock = .ok (known, some (.moment m)))
      (beyond : p.start.IsBeyond) : p.Unanswered item catalog clock .outOfRange
  | stop {known : Bool} {m : Moment}
      (stored : Dashboard.stored item p.field catalog clock = .ok (known, some (.moment m)))
      (starts : Period.startsBy p.start m clock = .ok true)
      (beyond : p.stop.IsBeyond) : p.Unanswered item catalog clock .outOfRange

section Periods

variable {p : Period} {item : Item} {catalog : Catalog} {clock : Clock} {now : Moment}
  {fault : Fault} (hnow : clock.now = .ok now) (hinner : now.date.IsInner)

include hnow hinner

theorem Period.startsBy_eq_error {d : Document} {m : Moment} :
    startsBy d m clock = .error fault ↔ fault = .outOfRange ∧ d.IsBeyond := by
  by_cases hnull : d.isNull = true
  · rw [Document.eq_null_of_isNull hnull]
    simp [startsBy, Document.isNull, Document.IsBeyond]
  · simp [startsBy, hnull, Outcome.bind_eq_error, Document.span?_eq_error hnow hinner]

theorem Period.endsAfter_eq_error {d : Document} {m : Moment} :
    endsAfter d m clock = .error fault ↔ fault = .outOfRange ∧ d.IsBeyond := by
  by_cases hnull : d.isNull = true
  · rw [Document.eq_null_of_isNull hnull]
    simp [endsAfter, Document.isNull, Document.IsBeyond]
  · simp [endsAfter, hnull, Outcome.bind_eq_error, Document.span?_eq_error hnow hinner]

theorem Period.holds_eq_error :
    p.holds item catalog clock = .error fault ↔ p.Unanswered item catalog clock fault := by
  unfold holds
  rw [Outcome.bind_eq_error, Dashboard.stored_eq_error]
  constructor
  · rintro (⟨rfl, hlost⟩ | ⟨⟨known, v⟩, hstored, h⟩)
    · exact .lost hlost
    · dsimp only at h
      split at h
      · rcases Outcome.bind_eq_error.1 h with hstart | ⟨starts, hstarts, h⟩
        · obtain ⟨rfl, hbeyond⟩ := (startsBy_eq_error hnow hinner).1 hstart
          exact .start hstored hbeyond
        · cases starts with
          | false => cases h
          | true =>
            obtain ⟨rfl, hbeyond⟩ := (endsAfter_eq_error hnow hinner).1 h
            exact .stop hstored hstarts hbeyond
      · cases h
  · intro h
    cases h with
    | lost hlost => exact .inl ⟨rfl, hlost⟩
    | start hstored hbeyond =>
      refine .inr ⟨_, hstored, Outcome.bind_eq_error.2 (.inl ?_)⟩
      exact (startsBy_eq_error hnow hinner).2 ⟨rfl, hbeyond⟩
    | stop hstored hstarts hbeyond =>
      refine .inr ⟨_, hstored, Outcome.bind_eq_error.2 (.inr ⟨true, hstarts, ?_⟩)⟩
      exact (endsAfter_eq_error hnow hinner).2 ⟨rfl, hbeyond⟩

end Periods

namespace Dashboard

/-- In a year between the first and the last, every condition and every period has an answer for
every item, or one of the faults of reading and comparing that are listed. Local time is universal
time (`Stamp.moment?`). -/
theorem conditions_answer {now : Moment} (hinner : now.date.IsInner) (item : Item)
    (catalog : Catalog) (wall : Moment) :
    (∀ (id operator : String) (d : Document),
      ((∀ fault, ¬ Unanswered item id (Choice.ofName? operator) d catalog
          ⟨some ⟨now, none⟩, wall⟩ fault) →
        ∃ b, holds item id (Choice.ofName? operator) d catalog ⟨some ⟨now, none⟩, wall⟩ = .ok b) ∧
      ∀ fault, Unanswered item id (Choice.ofName? operator) d catalog
          ⟨some ⟨now, none⟩, wall⟩ fault →
        holds item id (Choice.ofName? operator) d catalog ⟨some ⟨now, none⟩, wall⟩ =
          .error fault) ∧
    ∀ p : Period,
      ((∀ fault, ¬ p.Unanswered item catalog ⟨some ⟨now, none⟩, wall⟩ fault) →
        ∃ b, p.holds item catalog ⟨some ⟨now, none⟩, wall⟩ = .ok b) ∧
      ∀ fault, p.Unanswered item catalog ⟨some ⟨now, none⟩, wall⟩ fault →
        p.holds item catalog ⟨some ⟨now, none⟩, wall⟩ = .error fault := by
  have hnow : Clock.now ⟨some ⟨now, none⟩, wall⟩ = .ok now := rfl
  constructor
  · intro id operator d
    constructor
    · intro hanswered
      exact Outcome.exists_eq_ok fun fault h => hanswered fault ((holds_eq_error hnow hinner).1 h)
    · intro fault h
      exact (holds_eq_error hnow hinner).2 h
  · intro p
    constructor
    · intro hanswered
      exact Outcome.exists_eq_ok fun fault h =>
        hanswered fault ((Period.holds_eq_error hnow hinner).1 h)
    · intro fault h
      exact (Period.holds_eq_error hnow hinner).2 h

def beforeCalendar : Document := .text "0001-01-01T00:00+01:00"

theorem conditions_answer_morningShift :
    (∃ b, holds morningShift "hours" (Choice.ofName? "gt") (.int 2) shifts evaluationClock =
        .ok b) ∧
      holds morningShift "createdAt" (Choice.ofName? "lt") beforeCalendar shifts evaluationClock =
        .error .outOfRange := by
  have hinner : evaluation.date.IsInner := by
    constructor <;> decide
  have hconditions := (conditions_answer hinner morningShift shifts evaluation).1
  have hhours : stored morningShift "hours" shifts evaluationClock =
      .ok (true, some (.number (Number.ofNat 3))) := by
    decide +kernel
  have hcreated : stored morningShift "createdAt" shifts evaluationClock =
      .ok (true, some (.moment Moment.first)) := by
    decide +kernel
  have hless : Choice.ofName? "lt" = some Operator.less := by decide
  constructor
  · apply (hconditions "hours" "gt" (.int 2)).1
    intro fault h
    cases h with
    | lost lost =>
      obtain ⟨s, hs, -⟩ := lost.lost
      cases hs
    | incomparable known stored incomparable =>
      rw [show Clock.mk (some ⟨evaluation, none⟩) evaluation = evaluationClock from rfl,
        hhours] at stored
      cases stored
      have hnotHuge : ¬ Document.IsHuge (.int 2) := by
        rintro ⟨n, hn, hnone⟩
        cases hn
        exact absurd hnone (by decide +kernel)
      cases known
      rw [show Document.comparand (.int 2) = .int 2 from rfl,
        Incomparable.number_iff (by decide)] at incomparable
      exact hnotHuge incomparable.2
  · apply (hconditions "createdAt" "lt" beforeCalendar).2
    exact .incomparable hless hcreated (.moment (by decide) (by decide +kernel))

/-- A number is compared with an integer beyond the magnitudes, the moment of creation with a text
that lies before the calendar, the title with an integer of too many digits, and the moment of
creation with a bound before the calendar. None of these has an answer. -/
theorem conditions_unanswered :
    holds morningShift "hours" (Choice.ofName? "equals") (.int (10 ^ 400)) shifts evaluationClock =
        .error .outOfRange ∧
      holds morningShift "createdAt" (Choice.ofName? "lt") beforeCalendar shifts evaluationClock =
        .error .outOfRange ∧
      holds morningShift "title" (Choice.ofName? "contains") (.int (10 ^ 5000)) shifts
        evaluationClock = .error (.invalid .tooLong) ∧
      Period.holds ⟨"createdAt", beforeCalendar, .null⟩ morningShift shifts evaluationClock =
        .error .outOfRange := by
  refine ⟨?_, ?_, ?_, ?_⟩
  all_goals decide +kernel

end Dashboard

end Cuaderno
