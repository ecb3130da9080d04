import Cuaderno.Proofs.Calendar.StampText
import Cuaderno.Proofs.Dashboard.Bounds
import Cuaderno.Proofs.Snapshot.RoundTrip

/-!
# Stored periods

The bounds of a period are stored as texts: a day without a time, and a stamp with one. The text
alone tells them apart when the period is read back, so a stored day still covers the whole day, and
a stored stamp is still exact. Only the zone of a stamp may be lost, when its offset is less than a
second and zero is read for it (`Period.holds_stored`). A period whose stamps have no such zone
keeps what it kept before (`Period.holds_read_document`).
-/

namespace Cuaderno

/-- Whether the offset of a stamp is read back: it is less than a day, and zero or at least a
second. -/
def Stamp.KeepsOffset (s : Stamp) : Prop :=
  ∀ offset ∈ s.offset, offset.natAbs < microsPerDay ∧
    (offset = 0 ∨ microsPerSecond ≤ offset.natAbs)

private theorem Stamp.KeepsOffset.isZoned {s : Stamp} (h : s.KeepsOffset) : s.IsZoned :=
  fun offset hoffset => (h offset hoffset).1

private theorem Stamp.readBack_of_keepsOffset {s : Stamp} (h : s.KeepsOffset) : s.readBack = s := by
  obtain ⟨reading, offset⟩ := s
  cases offset with
  | none => rfl
  | some offset =>
    simp only [readBack, Option.map_some]
    rcases (h offset rfl).2 with rfl | hsecond
    · rfl
    · rw [if_neg (Nat.not_lt.2 hsecond)]

/-- Whether a document is a bound of a period whose offset, if it has one, is less than a day. -/
def Document.IsZonedBound : Document → Prop
  | .stamp s => s.IsZoned
  | d => d.IsBound

/-- Whether a document is a bound of a period whose offset, if it has one, is read back. -/
def Document.IsStorableBound : Document → Prop
  | .stamp s => s.KeepsOffset
  | d => d.IsBound

private theorem Document.IsStorableBound.isZonedBound {d : Document} (h : d.IsStorableBound) :
    d.IsZonedBound := by
  cases d with
  | stamp s => exact Stamp.KeepsOffset.isZoned h
  | _ => exact h

/-- A bound with the offset that is read back for it. -/
def Document.readBack : Document → Document
  | .stamp s => .stamp s.readBack
  | d => d

private theorem Document.readBack_of_isStorableBound {d : Document} (h : d.IsStorableBound) :
    d.readBack = d := by
  cases d with
  | stamp s => rw [readBack, Stamp.readBack_of_keepsOffset h]
  | _ => rfl

namespace Period

variable {d : Document} {m : Moment} {clock : Clock}

private theorem isTextOrNull_boundDocument (h : d.IsZonedBound) :
    (boundDocument d).IsTextOrNull := by
  cases d with
  | null | text s | date d | stamp s => trivial
  | _ => exact h.elim

private theorem boundDocument_of_isTextOrNull (h : d.IsTextOrNull) : boundDocument d = d := by
  cases d with
  | null | text s => rfl
  | _ => exact h.elim

private theorem isNull_boundDocument (d : Document) :
    (boundDocument d).isNull = d.readBack.isNull := by
  cases d <;> rfl

/-- The text of a bound stands for the span that the bound stood for. -/
theorem span?_boundDocument (h : d.IsZonedBound) :
    (boundDocument d).span? clock = d.readBack.span? clock := by
  cases d with
  | date d =>
    simp only [boundDocument, Document.readBack, Document.span?, String.toList_ofList]
    exact Written.span_dateText d
  | stamp s =>
    simp only [boundDocument, Document.readBack, Document.span?, String.toList_ofList]
    exact Written.span_stampText h
  | _ => rfl

private theorem startsBy_boundDocument (h : d.IsZonedBound) :
    startsBy (boundDocument d) m clock = startsBy d.readBack m clock := by
  rw [startsBy, startsBy, isNull_boundDocument, span?_boundDocument h]

private theorem endsAfter_boundDocument (h : d.IsZonedBound) :
    endsAfter (boundDocument d) m clock = endsAfter d.readBack m clock := by
  rw [endsAfter, endsAfter, isNull_boundDocument, span?_boundDocument h]

variable {p : Period} {item : Item} {catalog : Catalog}

def stored (p : Period) : Period where
  field := p.field
  start := boundDocument p.start
  stop := boundDocument p.stop

private theorem read_stored (hstart : p.start.IsZonedBound) (hstop : p.stop.IsZonedBound) :
    Period.read p.document = .ok p.stored := by
  have htextStart := isTextOrNull_boundDocument hstart
  have htextStop := isTextOrNull_boundDocument hstop
  have hdocument : p.stored.document = p.document := by
    rw [document, document, stored, boundDocument_of_isTextOrNull htextStart,
      boundDocument_of_isTextOrNull htextStop]
  rw [← hdocument]
  exact read_document ⟨htextStart, htextStop⟩

/-- A stored period keeps what the period with its bounds read back keeps. -/
theorem holds_stored (hstart : p.start.IsZonedBound) (hstop : p.stop.IsZonedBound) :
    p.stored.holds item catalog clock =
      { p with start := p.start.readBack, stop := p.stop.readBack }.holds item catalog clock := by
  simp only [holds, stored, startsBy_boundDocument hstart, endsAfter_boundDocument hstop]

/-- A period that is written and read back keeps the items that it kept before, or comes to the same
fault. -/
theorem holds_read_document (hstart : p.start.IsStorableBound) (hstop : p.stop.IsStorableBound) :
    ∃ r, Period.read p.document = .ok r ∧
      ∀ item catalog clock, r.holds item catalog clock = p.holds item catalog clock := by
  have hzonedStart := hstart.isZonedBound
  have hzonedStop := hstop.isZonedBound
  refine ⟨p.stored, read_stored hzonedStart hzonedStop, fun item catalog clock => ?_⟩
  rw [holds_stored hzonedStart hzonedStop, Document.readBack_of_isStorableBound hstart,
    Document.readBack_of_isStorableBound hstop]

def mayDay : Date := ⟨2024, 5, 1, by decide⟩

/-- From midnight in a zone an hour and half a second ahead, to a whole day. -/
def firstOfMay : Period where
  field := "createdAt"
  start := .stamp ⟨.startOf mayDay, some 3600500000⟩
  stop := .date mayDay

def lateTask : Item :=
  { Query.undatedTask with created := ⟨⟨2024, 4, 30, by decide⟩, ⟨86399999999, by decide⟩⟩ }

theorem holds_read_document_firstOfMay :
    (firstOfMay.start.IsStorableBound ∧ firstOfMay.stop.IsStorableBound) ∧
      ∃ r, Period.read firstOfMay.document = .ok r ∧
        r.holds lateTask .empty ⟨none, lateTask.created⟩ = .ok true := by
  have hstart : firstOfMay.start.IsStorableBound := by
    rintro offset ⟨⟩
    decide
  obtain ⟨r, hread, hsame⟩ := holds_read_document (p := firstOfMay) hstart trivial
  refine ⟨⟨hstart, trivial⟩, r, hread, ?_⟩
  rw [hsame]
  decide +kernel

def fromMidnight : Period where
  field := "createdAt"
  start := .stamp ⟨.startOf mayDay, some 1⟩
  stop := .null

/-- A zone of less than a second is written but not read back, and a task at the very start of a
period is outside of it when the period was stored. -/
theorem read_document_loses_zone :
    ∃ r, Period.read fromMidnight.document = .ok r ∧
      fromMidnight.holds lateTask .empty ⟨none, lateTask.created⟩ = .ok true ∧
      r.holds lateTask .empty ⟨none, lateTask.created⟩ = .ok false := by
  have hstart : fromMidnight.start.IsZonedBound := by
    rintro offset ⟨⟩
    decide
  refine ⟨fromMidnight.stored, read_stored hstart trivial, ?_, ?_⟩
  all_goals decide +kernel

end Period

end Cuaderno
