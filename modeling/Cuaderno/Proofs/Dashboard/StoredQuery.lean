import Cuaderno.Proofs.Calendar.StampText
import Cuaderno.Proofs.Dashboard.Total
import Cuaderno.Proofs.Dashboard.WallClock
import Cuaderno.Proofs.Number.Unreadable
import Cuaderno.Proofs.Snapshot.RoundTrip

/-!
# Stored queries

A condition may compare with a value of a property, but a document has none of these: a stored query
compares with what the value was written as. Texts, numbers and flags lose nothing by that. The text
of a moment is read as that moment, but differs from the text that stands for the moment among
texts; and some texts or links, which are joined when they are compared, come back as a list, which
can be read as nothing. Where a condition does not come across this difference, a stored query
selects what it selected before (`Query.run_stored`).
-/

namespace Cuaderno

private theorem Number.readTyped?_isoText (m : Moment) :
    Number.readTyped? (String.ofList m.isoText) = none := by
  rw [readTyped?, String.toList_ofList, Iso.trim_isoText]
  apply read?_of_colon
  exact List.mem_map.2 ⟨':', Iso.colon_mem_isoText m, by decide⟩

private theorem Value.flag?_key_isoText (m : Moment) :
    Value.flag? (Text.key (String.ofList m.isoText)) = none := by
  have hcolon : ':' ∈ (Text.key (String.ofList m.isoText)).toList := by
    rw [Text.toList_key, String.toList_ofList]
    exact Text.mem_fold_of_mem (by decide) (by decide +kernel) (Iso.colon_mem_isoText m)
  have hno (names : List String) (hnames : ∀ name ∈ names, ':' ∉ name.toList) :
      Text.key (String.ofList m.isoText) ∉ names := fun h => hnames _ h hcolon
  rw [Value.flag?, if_neg (hno _ (by decide)), if_neg (hno _ (by decide))]

/-- Whether a document is a plain scalar or a value of a property. -/
def Document.IsFilterValue : Document → Prop
  | .value _ => True
  | d => d.IsScalar

def Document.stored : Document → Document
  | .value v => v.document
  | d => d

/-- A condition as it comes back from its document. -/
def Condition.stored (c : Condition) : Condition := { c with value := c.value.stored }

def Query.stored (q : Query) : Query := { q with conditions := q.conditions.map (·.stored) }

private theorem Document.itemsWritable_map {α : Type} {f : α → Document}
    (h : ∀ a, (f a).isWritable = true) (as : List α) : itemsWritable (as.map f) = true := by
  induction as with
  | nil => rfl
  | cons a as ih => rw [List.map_cons, itemsWritable, h, ih, Bool.and_self]

theorem Value.isWritable_document (v : Value) : v.document.isWritable = true := by
  cases v with
  | text s | number x | flag b | moment m => rfl
  | texts items => exact Document.itemsWritable_map (fun _ => rfl) items
  | links refs => exact Document.itemsWritable_map (fun _ => rfl) refs

private theorem Condition.read_stored {c : Condition} (h : c.value.IsFilterValue) :
    ∃ d, c.document = .ok d ∧ Condition.read d = .ok c.stored := by
  apply read_document_of
  unfold valueDocument
  cases hc : c.value <;> simp_all [Document.IsFilterValue, Document.IsScalar, Document.stored]

namespace Dashboard

/-- Whether an operator looks at the document that it compares a value with. -/
def Consults (op : Operator) : Value → Prop
  | .moment _ | .number _ => Compares op
  | .flag _ => op = .equals ∨ op = .notEquals
  | .text _ | .texts _ | .links _ => op = .equals ∨ op = .notEquals ∨ op = .contains

/-- Whether two documents are read as the same thing where they are compared with a value. -/
def ReadsAlike (d e : Document) (clock : Clock) : Value → Prop
  | .moment _ => d.span? clock = e.span? clock
  | .number _ => d.number? = e.number?
  | .flag _ => d.flag? = e.flag?
  | .text _ | .texts _ | .links _ => d.spell = e.spell

section Alike

variable {op : Operator} {v : Option Value} {d e : Document} {clock : Clock}

private theorem equality_congr_of_readsAlike (hd : d.isNull = false) (he : e.isNull = false)
    (h : ∀ w ∈ v, ReadsAlike d e clock w) : equality v d clock = equality v e clock := by
  cases v with
  | none => simp [equality, hd, he]
  | some w =>
    have hw := h w rfl
    cases w <;> simp only [ReadsAlike] at hw <;> simp [equality, hd, he, hw]

private theorem compare_congr_of_readsAlike {c : Comparison}
    (h : ∀ w ∈ v, Consults (.greater) w → ReadsAlike d e clock w) :
    compare c v d clock = compare c v e clock := by
  have hgreater : Compares .greater := by decide
  cases v with
  | none => rfl
  | some w =>
    have hw := h w rfl
    cases w with
    | moment m =>
      have hspan : d.span? clock = e.span? clock := hw hgreater
      simp only [compare, hspan]
    | number x =>
      have hnumber : d.number? = e.number? := hw hgreater
      simp only [compare, hnumber]
    | _ => rfl

private theorem containsText_congr_of_readsAlike (hd : d.isNull = false) (he : e.isNull = false)
    (hwritable : d.isWritable = true ∧ e.isWritable = true)
    (h : ∀ w ∈ v, Consults .contains w → ReadsAlike d e clock w) :
    containsText v d = containsText v e := by
  cases v with
  | none => simp [containsText]
  | some w =>
    have hw := h w rfl
    cases w with
    | text s | texts items | links refs =>
      have hspell : d.spell = e.spell := hw (.inr (.inr rfl))
      simp [containsText, hd, he, hspell]
    | moment m | number x | flag b =>
      simp [containsText, hd, he, Document.spell, hwritable.1, hwritable.2]

/-- A condition depends only on what its document is read as, and only when it looks at it. -/
theorem meets_congr_of_readsAlike (hd : d.isNull = false) (he : e.isNull = false)
    (hwritable : d.isWritable = true ∧ e.isWritable = true)
    (h : ∀ w ∈ v, Consults op w → ReadsAlike d e clock w) :
    meets op v d clock = meets op v e clock := by
  have hequality : op = .equals ∨ op = .notEquals → equality v d clock = equality v e clock := by
    intro hop
    refine equality_congr_of_readsAlike hd he fun w hw => h w hw ?_
    rcases hop with rfl | rfl <;> cases w <;> simp [Consults, Compares]
  have hcompare (c : Comparison) (hop : ∀ w, Consults .greater w → Consults op w) :
      compare c v d clock = compare c v e clock :=
    compare_congr_of_readsAlike fun w hw hgreater => h w hw (hop w hgreater)
  cases op with
  | isEmpty | notEmpty => rfl
  | equals => simp only [meets, hequality (.inl rfl)]
  | notEquals => simp only [meets, hequality (.inr rfl)]
  | contains => exact containsText_congr_of_readsAlike hd he hwritable h
  | greater | less | atLeast | atMost =>
    refine hcompare _ fun w hw => ?_
    cases w <;> simp_all [Consults, Compares]

end Alike

/-- Whether a text can be read as what is compared with a value. -/
def Readable (s : String) (clock : Clock) : Value → Prop
  | .moment _ => Written.span s.toList clock ≠ .ok none
  | .number _ => Number.readTyped? s ≠ none
  | .flag _ => Value.flag? (Text.key s) ≠ none
  | .text _ | .texts _ | .links _ => True

/-- Whether a value that a condition compares with is read differently when the condition was
stored: a moment as a text, and what comes back as a list as anything. -/
inductive LosesMeaning (clock : Clock) : Value → Value → Prop
  | moment {m : Moment} {w : Value} (words : IsWords w) : LosesMeaning clock (.moment m) w
  | texts {items : List String} {w : Value} (readable : Readable (", ".intercalate items) clock w) :
      LosesMeaning clock (.texts items) w
  | links {refs : List Link} {w : Value}
      (readable : Readable (", ".intercalate (refs.map (·.title))) clock w) :
      LosesMeaning clock (.links refs) w

/-- Joined texts are read like a list when they cannot be read at all. -/
theorem readsAlike_of_not_readable {s : String} {items : List Document} {clock : Clock} {w : Value}
    (h : ¬ Readable s clock w) : ReadsAlike (.list items) (.text s) clock w := by
  cases w with
  | moment m =>
    simp only [Readable, ne_eq, not_not] at h
    exact h.symm
  | number x =>
    simp only [Readable, ne_eq, not_not] at h
    exact congrArg Except.ok h.symm
  | flag b =>
    simp only [Readable, ne_eq, not_not] at h
    exact h.symm
  | text s | texts items | links refs => exact absurd trivial h

/-- The text of a moment is read like the moment wherever moments, numbers and flags are. -/
theorem readsAlike_isoText {m : Moment} {clock : Clock} {w : Value} (h : ¬ IsWords w) :
    ReadsAlike (.text (String.ofList m.isoText)) (.stamp ⟨m, none⟩) clock w := by
  cases w with
  | moment own =>
    have hspan := Written.span_isoText m clock
    simp only [ReadsAlike, Document.span?, String.toList_ofList, hspan]
    rfl
  | number x => exact congrArg Except.ok (Number.readTyped?_isoText m)
  | flag b => exact Value.flag?_key_isoText m
  | text s | texts items | links refs => exact absurd trivial h

end Dashboard

/-- Whether a condition means something else for an item once it was stored: it looks at a value
that the item has, and compares it with one that is read differently. -/
def Condition.LosesMeaning (c : Condition) (item : Item) (catalog : Catalog) (clock : Clock) :
    Prop :=
  ∃ typed own, c.value = .value typed ∧
    Dashboard.stored item c.propertyId catalog clock = .ok (true, some own) ∧
    Dashboard.Consults c.operator own ∧ Dashboard.LosesMeaning clock typed own

/-- A condition that does not lose its meaning is met as before it was stored. -/
theorem Condition.holds_stored {c : Condition} {item : Item} {catalog : Catalog} {clock : Clock}
    (h : ¬ c.LosesMeaning item catalog clock) :
    c.stored.holds item catalog clock = c.holds item catalog clock := by
  simp only [holds, stored, Dashboard.holds]
  cases hstored : Dashboard.stored item c.propertyId catalog clock with
  | error e => rfl
  | ok found =>
    obtain ⟨known, v⟩ := found
    simp only [Outcome.ok_bind]
    cases known with
    | false => rfl
    | true =>
      cases hvalue : c.value with
      | value typed =>
        have hkeeps : ∀ w ∈ v, Dashboard.Consults c.operator w →
            ¬ Dashboard.LosesMeaning clock typed w := by
          rintro w rfl hlook hloses
          exact h ⟨typed, w, hvalue, hstored, hlook, hloses⟩
        have hwritable := typed.isWritable_document
        -- Texts, numbers and flags come back as the plain data that they are compared as.
        cases typed with
        | text s | number x | flag b => rfl
        | moment m =>
          refine Dashboard.meets_congr_of_readsAlike rfl rfl ⟨hwritable, rfl⟩ fun w hw hlook => ?_
          exact Dashboard.readsAlike_isoText fun hwords => hkeeps w hw hlook (.moment hwords)
        | texts items =>
          refine Dashboard.meets_congr_of_readsAlike rfl rfl ⟨hwritable, rfl⟩ fun w hw hlook => ?_
          exact Dashboard.readsAlike_of_not_readable fun hread => hkeeps w hw hlook (.texts hread)
        | links refs =>
          refine Dashboard.meets_congr_of_readsAlike rfl rfl ⟨hwritable, rfl⟩ fun w hw hlook => ?_
          exact Dashboard.readsAlike_of_not_readable fun hread => hkeeps w hw hlook (.links hread)
      | _ => rfl

namespace Query

/-- Stored conditions keep the same items, unless one of them loses its meaning for an item of the
types of the query. -/
theorem kept_stored {q : Query} {catalog : Catalog} {items : List Item} {clock : Clock} {days : Int}
    (h : ∀ now, clock.now = .ok now → ∀ item ∈ items, q.keepsType item.typeId = true →
      ∀ c ∈ q.conditions, ¬ c.LosesMeaning item catalog (clock.at now)) :
    q.stored.kept catalog items clock days = q.kept catalog items clock days := by
  unfold kept
  cases hnow : clock.now with
  | error e => rfl
  | ok now =>
    simp only [Outcome.ok_bind]
    have hsame : (q.stored.ofPreset catalog
        (items.filter fun item => q.stored.keepsType item.typeId) now days) =
        q.ofPreset catalog (items.filter fun item => q.keepsType item.typeId) now days := rfl
    rw [hsame]
    cases hpreset : q.ofPreset catalog (items.filter fun item => q.keepsType item.typeId) now
        days with
    | error e => rfl
    | ok first =>
      have hconditions : ∀ c ∈ q.conditions, ∀ item ∈ first,
          c.stored.holds item catalog (clock.at now) = c.holds item catalog (clock.at now) := by
        intro c hc item hitem
        obtain ⟨hin, htype⟩ := List.mem_filter.1 (mem_of_ofPreset hpreset hitem)
        exact Condition.holds_stored (h now hnow item hin htype c hc)
      simp only [Outcome.ok_bind]
      rw [stored, List.foldlM_map, foldlM_keep_congr hconditions]
      rfl

/-- A query whose conditions compare with values of properties or plain data is written and read
back, and then selects the same items in the same order, wherever no condition loses its meaning. -/
theorem run_stored {q : Query} (hperiod : q.period = none)
    (hvalues : ∀ c ∈ q.conditions, c.value.IsFilterValue) :
    ∃ d, q.document = .ok d ∧ Query.read d = .ok q.stored ∧
      ∀ (catalog : Catalog) (items : List Item) (clock : Clock) (days : Int),
        (∀ now, clock.now = .ok now → ∀ item ∈ items, q.keepsType item.typeId = true →
          ∀ c ∈ q.conditions, ¬ c.LosesMeaning item catalog (clock.at now)) →
        q.stored.run catalog items clock days = q.run catalog items clock days := by
  have hnoPeriod : ∀ p ∈ q.period, p.Storable := by
    rintro p hp
    rw [hperiod] at hp
    cases hp
  obtain ⟨d, hwrite, -, hread⟩ := read_document_of Condition.stored
    (fun c hc => Condition.read_stored (hvalues c hc)) hnoPeriod
  refine ⟨d, hwrite, hread, ?_⟩
  intro catalog items clock days hkeeps
  rw [run, run, kept_stored hkeeps]
  rfl

open Dashboard (shifts morningShift evaluation evaluationClock)

/-- Shifts of two hours or more that were made before a day; the last condition does not look at
what it compares with. -/
def longShifts : Query where
  types := ["shift"]
  conditions := [⟨"hours", .atLeast, .value (.number (Number.ofNat 2))⟩,
    ⟨"createdAt", .less, .value (.moment evaluation)⟩,
    ⟨"title", .notEmpty, .value (.texts ["a", "b"])⟩]

theorem run_stored_longShifts :
    ∃ d, longShifts.document = .ok d ∧ Query.read d = .ok longShifts.stored ∧
      longShifts.stored.run shifts [morningShift] evaluationClock 7 =
        longShifts.run shifts [morningShift] evaluationClock 7 ∧
      longShifts.run shifts [morningShift] evaluationClock 7 = .ok [morningShift] := by
  have hvalues : ∀ c ∈ longShifts.conditions, c.value.IsFilterValue := by
    intro c hc
    simp only [longShifts, List.mem_cons, List.not_mem_nil, or_false] at hc
    rcases hc with rfl | rfl | rfl <;> trivial
  obtain ⟨d, hwrite, hread, hrun⟩ := run_stored (q := longShifts) rfl hvalues
  refine ⟨d, hwrite, hread, hrun shifts [morningShift] evaluationClock 7 ?_, by decide +kernel⟩
  rintro now hnow item hitem - c hc ⟨typed, own, hvalue, hstored, hlook, hloses⟩
  cases hnow
  rw [List.mem_singleton] at hitem
  subst hitem
  simp only [longShifts, List.mem_cons, List.not_mem_nil, or_false] at hc
  rcases hc with rfl | rfl | rfl
  · cases hvalue
    cases hloses
  · cases hvalue
    cases hstored
    cases hloses with
    | moment words => exact words
  · cases own <;> simp [Dashboard.Consults, Dashboard.Compares] at hlook

def listedShift : Item := { morningShift with title := "a, b" }

def namedByList : Query where
  conditions := [⟨"title", .equals, .value (.texts ["a", "b"])⟩]

/-- Two texts are joined when they are compared, but come back from a document as a list. The query
selects the shift before it is stored, and nothing afterwards. -/
theorem run_stored_differs :
    (namedByList.document >>= Query.read) = .ok namedByList.stored ∧
      namedByList.run shifts [listedShift] evaluationClock 7 = .ok [listedShift] ∧
      namedByList.stored.run shifts [listedShift] evaluationClock 7 = .ok [] := by
  refine ⟨?_, ?_, ?_⟩
  all_goals decide +kernel

end Query

end Cuaderno
