import Cuaderno.Proofs.Calendar.Forward
import Cuaderno.Proofs.Calendar.StampText

/-!
# The span of a written date

A text is read as a moment and as a span. It is none of them, or a fault as both, or the moment lies
in the span (`agree_moment_span`). A date without a time of day is a whole day, and a time of day
with a colon in the text is the moment itself. Without a colon the time of day of a standard text is
lost: such a text is a whole day too (`span_exact`).
-/

namespace Cuaderno

namespace Relative

variable {cs : List Char} {clock : Clock} {r : Relative}

/-- What is a relative date with its sign is one where the sign may be left out. -/
theorem ofText?_of_sign (h : ofText? true cs = some r) : ofText? false cs = some r := by
  unfold ofText? at h ⊢
  split at h
  · exact h
  · cases h

private theorem trim_ne_nil_of_ofText? (h : ofText? true cs = some r) : Text.trim cs ≠ [] := by
  intro hnil
  unfold ofText? at h
  rw [hnil] at h
  cases h

end Relative

namespace Written

variable {cs : List Char} {clock : Clock}

inductive Agree : Except Fault (Option Moment) → Except Fault (Option Span) → Prop where
  | fault (fault : Fault) : Agree (.error fault) (.error fault)
  | none : Agree (.ok none) (.ok none)
  | some {m : Moment} {s : Span} (contains : s.contains m = true) :
      Agree (.ok (some m)) (.ok (some s))

/-- The moment of a relative date with its sign is where its span starts. -/
theorem moment_of_sign {r : Relative} (h : Relative.ofText? true cs = some r) :
    moment cs clock = Option.map Span.start <$> Relative.resolve true cs clock := by
  have hresolve : Relative.resolve false (Text.trim cs) clock =
      Relative.resolve true cs clock := by
    rw [Relative.resolve, Relative.resolve, Relative.ofText?_trim, h, Relative.ofText?_of_sign h]
  have hsome : Relative.resolve true cs clock ≠ .ok none := by
    rw [ne_eq, Relative.resolve_eq_ok_none, h]
    exact Option.some_ne_none r
  simp only [moment, List.isEmpty_iff, Relative.trim_ne_nil_of_ofText? h, hresolve]
  cases hdays : Relative.resolve true cs clock with
  | error fault => rfl
  | ok days =>
    cases days with
    | none => exact absurd hdays hsome
    | some days => rfl

/-- A moment lies in the span of its text, and the readings end in one way. -/
theorem agree_moment_span (cs : List Char) (clock : Clock) :
    Agree (moment cs clock) (span cs clock) := by
  unfold span
  cases hsign : Relative.ofText? true cs with
  | some r =>
    rw [moment_of_sign hsign]
    cases hdays : Relative.resolve true cs clock with
    | error fault => exact .fault fault
    | ok days =>
      cases days with
      | none => exact .none
      | some days =>
        have hforward := Relative.start_le_stop_of_resolve hdays
        exact .some (Span.contains_iff.2 ⟨Int.le_refl _, hforward⟩)
  | none =>
    rw [Relative.resolve_of_none hsign, Outcome.ok_bind]
    cases moment cs clock with
    | error fault => exact .fault fault
    | ok m =>
      cases m with
      | none => exact .none
      | some m =>
        refine .some ?_
        split
        · exact Span.contains_iff.2 ⟨Int.le_refl _, Int.le_refl _⟩
        · exact Span.contains_ofDays_iff.2 ⟨Nat.le_refl _, Nat.le_refl _⟩

def HasTime (cs : List Char) : Prop :=
  (Iso.stamp? (Text.trim cs)).isSome = true ∧ Iso.date? (Text.trim cs) = none

private theorem colon_not_mem_of_date? {d : Date} (h : Iso.date? (Text.trim cs) = some d) :
    ':' ∉ cs := by
  rw [← Text.mem_trim (by decide)]
  exact (Iso.isDateText_of_date? h).colon_not_mem

private theorem span_of_date? {d : Date} (h : Iso.date? (Text.trim cs) = some d) :
    moment cs clock = .ok (some (.startOf d)) ∧ span cs clock = .ok (some (.ofDay d)) := by
  have hstamp := Iso.stamp?_of_date? h
  rw [moment_of_stamp? hstamp, span_of_stamp? hstamp]
  simp [Stamp.moment, Moment.startOf, colon_not_mem_of_date? h]

private theorem span_of_hasTime {m : Moment} (h : HasTime cs)
    (hm : moment cs clock = .ok (some m)) :
    span cs clock = .ok (some (if ':' ∈ cs then .ofMoment m else .ofDay m.date)) := by
  obtain ⟨s, hstamp⟩ := Option.isSome_iff_exists.1 h.1
  rw [moment_of_stamp? hstamp] at hm
  obtain ⟨own, hown, heq⟩ := Outcome.map_eq_ok.1 hm
  cases heq
  rw [span_of_stamp? hstamp, hown, Outcome.ok_bind]
  simp

/-- A text is read as a moment and as a span that holds it, or as none, or it is the same fault. A
date alone is its whole day. A time of day behind a date is the moment itself if the text has a
colon, and is lost if it has none. -/
theorem span_exact (cs : List Char) (clock : Clock) :
    Agree (moment cs clock) (span cs clock) ∧
    (∀ d, Iso.date? (Text.trim cs) = some d →
      moment cs clock = .ok (some (.startOf d)) ∧ span cs clock = .ok (some (.ofDay d))) ∧
    ∀ m, HasTime cs → moment cs clock = .ok (some m) →
      span cs clock = .ok (some (if ':' ∈ cs then .ofMoment m else .ofDay m.date)) :=
  ⟨agree_moment_span cs clock, fun _ => span_of_date?, fun _ => span_of_hasTime⟩

def halfPastTen : Moment := ⟨⟨2024, 5, 20, by decide⟩, ⟨37800000000, by decide⟩⟩

/-- With a colon in the text, half past ten is a moment. -/
theorem span_exact_halfPastTen :
    HasTime "20240520 10:30".toList ∧
      moment "20240520 10:30".toList ⟨none, .first⟩ = .ok (some halfPastTen) ∧
      span "20240520 10:30".toList ⟨none, .first⟩ = .ok (some (.ofMoment halfPastTen)) ∧
      Iso.date? (Text.trim "2024-W21-1".toList) = some halfPastTen.date ∧
      span "2024-W21-1".toList ⟨none, .first⟩ = .ok (some (.ofDay halfPastTen.date)) := by
  have htime : HasTime "20240520 10:30".toList := by
    constructor <;> decide +kernel
  have hmoment : moment "20240520 10:30".toList ⟨none, .first⟩ = .ok (some halfPastTen) := by
    decide +kernel
  have hdate : Iso.date? (Text.trim "2024-W21-1".toList) = some halfPastTen.date := by
    decide +kernel
  obtain ⟨-, -, hspan⟩ := span_exact "20240520 10:30".toList ⟨none, .first⟩
  obtain ⟨-, hday, -⟩ := span_exact "2024-W21-1".toList ⟨none, .first⟩
  refine ⟨htime, hmoment, ?_, hdate, (hday _ hdate).2⟩
  rw [hspan _ htime hmoment, if_pos (by decide)]

/-- Without a colon, half past ten is the whole day. -/
theorem span_loses_time :
    HasTime "20240520T1030".toList ∧
      moment "20240520T1030".toList ⟨none, .first⟩ = .ok (some halfPastTen) ∧
      span "20240520T1030".toList ⟨none, .first⟩ = .ok (some (.ofDay halfPastTen.date)) ∧
      Span.ofDay halfPastTen.date ≠ Span.ofMoment halfPastTen := by
  refine ⟨⟨?_, ?_⟩, ?_, ?_, ?_⟩
  all_goals decide +kernel

end Written

end Cuaderno
