import Cuaderno.Proofs.Calendar.Beyond
import Cuaderno.Proofs.QuickEntry.Converted

/-!
# Lines without an answer

What people type is answered: a line is no quick entry, or it asks for something, and a value that
its property cannot take becomes a text. One kind of text is left out. A date with an offset that
moves it out of the calendar is a fault, and the whole line with it. Evaluated in a year between the
first and the last, every other line is answered (`intent_answers`).
-/

namespace Cuaderno.QuickEntry

section Values

variable {t : ItemType} {p : Property} {typed : String} {items : List Item} {clock : Clock}
  {now : Moment} {fault : Fault}

/-- Only the value of a temporal property can be a fault, when its moment is one. -/
theorem convertValue_eq_error : convertValue p typed items clock = .error fault ↔
    p.kind.isTemporal = true ∧ Written.moment typed.toList clock = .error fault := by
  unfold convertValue
  cases hk : p.kind with
  | date | datetime =>
    simp [PropertyKind.isTemporal, Outcome.bind_eq_error]
  | select =>
    simp only [PropertyKind.isTemporal]
    split <;> simp
  | relation =>
    simp only [PropertyKind.isTemporal]
    split <;> simp
  | boolean | number | texts | text => simp [PropertyKind.isTemporal]

/-- Whether a typed pair gives a temporal property a date outside the calendar. -/
def IsBeyond (t : ItemType) (pair : String × String) : Prop :=
  ∃ p ∈ t.resolve pair.1, p.kind.isTemporal = true ∧
    Written.IsBeyond (typedValue pair.2).toList

instance (t : ItemType) (pair : String × String) : Decidable (IsBeyond t pair) :=
  inferInstanceAs (Decidable (∃ p ∈ t.resolve pair.1, _))

theorem Conversion.add_eq_error (hnow : clock.now = .ok now) (hinner : now.date.IsInner)
    (c : Conversion) (pair : String × String) (fault : Fault) :
    c.add t items clock pair = .error fault ↔ fault = .outOfRange ∧ IsBeyond t pair := by
  have hblank : ¬ Written.IsBeyond [] := by decide
  unfold Conversion.add IsBeyond
  cases t.resolve pair.1 with
  | none => simp
  | some p =>
    simp only [Option.mem_def, Option.some.injEq, exists_eq_left']
    by_cases htyped : typedValue pair.2 = ""
    -- Nothing typed is not converted at all.
    · simp [htyped, hblank]
    · rw [if_neg htyped, Outcome.bind_eq_error, convertValue_eq_error,
        Written.moment_eq_error hnow hinner, or_iff_left]
      · exact and_left_comm
      · rintro ⟨r, -, h⟩
        cases r <;> cases h

theorem convert_eq_error (hnow : clock.now = .ok now) (hinner : now.date.IsInner)
    {pairs : List (String × String)} {type : Option ItemType} :
    convert pairs type items clock = .error fault ↔
      fault = .outOfRange ∧ ∃ t ∈ type, ∃ pair ∈ pairs, IsBeyond t pair := by
  cases type with
  | none => simp [convert]
  | some t =>
    simp only [convert, Option.mem_def, Option.some.injEq, exists_eq_left']
    exact Outcome.foldlM_eq_error (Conversion.add_eq_error hnow hinner)

end Values

/-- Whether a line gives a property of its type a date outside the calendar. -/
def HasDateBeyond (s : String) (catalog : Catalog) : Prop :=
  ∃ e ∈ entry? s, ∃ t ∈ catalog.resolve e.typeWord, ∃ pair ∈ e.assignments, IsBeyond t pair

instance (s : String) (catalog : Catalog) : Decidable (HasDateBeyond s catalog) :=
  inferInstanceAs (Decidable (∃ e ∈ entry? s, _))

variable {s : String} {catalog : Catalog} {items : List Item} {clock : Clock} {now : Moment}
  {fault : Fault}

theorem intent_eq_error (hnow : clock.now = .ok now) (hinner : now.date.IsInner) :
    intent s catalog items clock = .error fault ↔
      fault = .outOfRange ∧ HasDateBeyond s catalog := by
  unfold intent HasDateBeyond
  cases entry? s with
  | none => simp
  | some e =>
    simp only [Option.mem_def, Option.some.injEq, exists_eq_left']
    rw [Outcome.bind_eq_error, convert_eq_error hnow hinner, or_iff_left]
    · rfl
    · rintro ⟨c, -, h⟩
      cases h

/-- In a year between the first and the last, every line is answered, and a typed value that its
property does not take is a text with a warning; only a line with a date outside the calendar is a
fault. Local time is universal time, so that a date with an offset is outside exactly when its
universal time is (`Stamp.moment?`). -/
theorem intent_answers (hinner : now.date.IsInner) (s : String) (catalog : Catalog)
    (items : List Item) (wall : Moment) :
    (¬ HasDateBeyond s catalog → ∃ answer,
      intent s catalog items ⟨some ⟨now, none⟩, wall⟩ = .ok answer ∧
        ∀ i ∈ answer, ∀ t ∈ i.type,
          Converts t items ⟨some ⟨now, none⟩, wall⟩ i.typed ⟨i.properties, i.warnings⟩) ∧
    (HasDateBeyond s catalog →
      intent s catalog items ⟨some ⟨now, none⟩, wall⟩ = .error .outOfRange) := by
  have hnow : Clock.now ⟨some ⟨now, none⟩, wall⟩ = .ok now := rfl
  constructor
  · intro hwithin
    obtain ⟨answer, hanswer⟩ := Outcome.exists_eq_ok
      (x := intent s catalog items ⟨some ⟨now, none⟩, wall⟩) fun e he =>
        hwithin ((intent_eq_error hnow hinner).1 he).2
    refine ⟨answer, hanswer, ?_⟩
    rintro i hi t ht
    rw [Option.mem_def] at hi ht
    rw [hi] at hanswer
    exact Converts.nil.foldlM (convert_of_intent hanswer ht)
  · intro hbeyond
    exact (intent_eq_error hnow hinner).2 ⟨rfl, hbeyond⟩

def errands : Catalog where
  types := [errand]
  distinct := by decide

def march : Moment := .startOf ⟨2032, 3, 2, by decide⟩

def unreadErrand : Intent where
  type := some errand
  name := "Correos"
  properties := [("due", .text "nunca")]
  typed := [("fecha", "nunca")]
  existing := none
  warnings := ["Fecha: \"nunca\" no es una fecha válida"]

theorem intent_answers_errand :
    intent "@recado/Correos > fecha = nunca" errands [] ⟨some ⟨march, none⟩, Moment.first⟩ =
        .ok (some unreadErrand) ∧
      Converts errand [] ⟨some ⟨march, none⟩, Moment.first⟩ [("fecha", "nunca")]
        ⟨[("due", .text "nunca")], ["Fecha: \"nunca\" no es una fecha válida"]⟩ ∧
      intent "@recado/Correos > fecha = 0001-01-01T00:00+01:00" errands []
        ⟨some ⟨march, none⟩, Moment.first⟩ = .error .outOfRange := by
  have hinner : march.date.IsInner := by
    constructor <;> decide
  have hintent : intent "@recado/Correos > fecha = nunca" errands []
      ⟨some ⟨march, none⟩, Moment.first⟩ = .ok (some unreadErrand) := by
    decide +kernel
  obtain ⟨answer, hanswer, hconverts⟩ :=
    (intent_answers hinner "@recado/Correos > fecha = nunca" errands [] Moment.first).1
      (by decide +kernel)
  rw [hintent] at hanswer
  cases hanswer
  refine ⟨hintent, hconverts _ rfl _ rfl, ?_⟩
  exact (intent_answers hinner "@recado/Correos > fecha = 0001-01-01T00:00+01:00" errands []
    Moment.first).2 (by decide +kernel)

/-- The first instant of the calendar on a clock that is an hour ahead lies before the calendar. A
line with this date has no answer. -/
theorem intent_of_date_beyond :
    intent "@recado/Correos > fecha = 0001-01-01T00:00+01:00" errands []
      ⟨some ⟨march, none⟩, Moment.first⟩ = .error .outOfRange := by
  decide +kernel

end Cuaderno.QuickEntry
