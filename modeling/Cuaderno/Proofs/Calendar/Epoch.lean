import Cuaderno.Calendar.Epoch
import Cuaderno.Proofs.Calendar.Beyond

/-!
# Time stamps that are read

A time stamp is read when the clock of the system can name its second, and it lies in the calendar
with the day before it. When only the first holds, its year is reported as one that is out of range;
when it does not, the fault is another one.
-/

namespace Cuaderno.Epoch

def instantOf (units : Int) : Int :=
  start + (split units).1 * microsPerSecond + (split units).2

/-- Whether the clock of the system can name the second of a time stamp. -/
def isNameable (x : Number) : Bool :=
  x.signedUnits?.any fun units => inClock (split units).1 && inCalendar (split units).1

/-- Whether a time stamp lies in the calendar, and the day before it too. -/
def isWithin (x : Number) : Bool :=
  isNameable x && x.signedUnits?.any fun units =>
    Moment.first.instant + microsPerDay ≤ instantOf units && instantOf units < Moment.calendarEnd

theorem one_le_yearOf_iff {i : Int} : 1 ≤ yearOf i ↔ Moment.first.instant ≤ i := by
  have hfirst : Moment.first.instant = (microsPerDay : Int) := by decide
  rw [hfirst, yearOf]
  by_cases hbefore : i / microsPerDay - 1 < 0
  · have hyear := Date.yearAfter_nonpos hbefore
    simp only [microsPerDay] at hbefore hyear ⊢
    omega
  · obtain ⟨year, hyear, hpos, -⟩ := Date.yearAfter_spec (i / microsPerDay - 1).toNat
    rw [Int.toNat_of_nonneg (by omega)] at hyear
    rw [hyear]
    simp only [microsPerDay] at hbefore ⊢
    omega

theorem yearOf_le_iff {i : Int} (h : Moment.first.instant ≤ i) :
    yearOf i ≤ 9999 ↔ i < Moment.calendarEnd := by
  have hfirst : Moment.first.instant = (microsPerDay : Int) := by decide
  have hnonneg : 0 ≤ i / microsPerDay - 1 := by
    simp only [hfirst, microsPerDay] at h ⊢
    omega
  obtain ⟨year, hyear, hpos, hfrom, hto⟩ := Date.yearAfter_spec (i / microsPerDay - 1).toNat
  rw [Int.toNat_of_nonneg hnonneg] at hyear
  -- the last year ends with the calendar
  have hlast : year ≤ 9999 ↔ (i / microsPerDay - 1).toNat < Date.lastOrdinal := by
    rw [← Date.daysBeforeYear_lastYear]
    constructor
    · intro hle
      exact hto.trans_le (Date.daysBeforeYear_mono (Nat.succ_le_succ hle))
    · intro hlt
      by_contra hmany
      have hle : 10000 ≤ year := by omega
      have hdays := Date.daysBeforeYear_mono hle
      omega
  rw [yearOf, hyear, Moment.calendarEnd]
  simp only [microsPerDay] at hnonneg hlast ⊢
  omega

/-- An instant lies in the calendar exactly when its year does. -/
theorem not_isOutside_iff {i : Int} :
    ¬ Moment.IsOutside i ↔ 1 ≤ yearOf i ∧ yearOf i ≤ 9999 := by
  rw [Moment.IsOutside, one_le_yearOf_iff]
  constructor
  · intro h
    have hfirst : Moment.first.instant ≤ i := by omega
    exact ⟨hfirst, (yearOf_le_iff hfirst).2 (by omega)⟩
  · rintro ⟨hfirst, hyear⟩
    have hend := (yearOf_le_iff hfirst).1 hyear
    omega

/-- A time stamp whose second the clock can name is a matter of the calendar. -/
theorem ofSeconds_of_isNameable {x : Number} (h : isNameable x = true) :
    ∃ units ∈ x.signedUnits?, ofSeconds x =
      if yearOf (instantOf units) < 1 || 9999 < yearOf (instantOf units) then
        .error (.invalid (.yearOutOfRange (yearOf (instantOf units))))
      else if yearOf (instantOf units - microsPerDay) < 1 then
        .error (.invalid (.yearOutOfRange (yearOf (instantOf units - microsPerDay))))
      else match Moment.ofInstant? (instantOf units) with
        | some m => .ok m
        | none => .error .outOfRange := by
  simp only [isNameable, Bool.and_eq_true, Option.any_eq_true] at h
  obtain ⟨units, hunits, hclock, hcalendar⟩ := h
  refine ⟨units, hunits, ?_⟩
  rw [ofSeconds, hunits]
  dsimp only
  rw [hclock, hcalendar]
  rfl

private theorem isNameable_of_isWithin {x : Number} (h : isWithin x = true) :
    isNameable x = true := by
  rw [isWithin, Bool.and_eq_true] at h
  exact h.1

theorem exists_ofSeconds {x : Number} (h : isWithin x = true) : ∃ m, ofSeconds x = .ok m := by
  simp only [isWithin, Bool.and_eq_true, Option.any_eq_true, decide_eq_true_eq] at h
  obtain ⟨hnameable, own, hown, hfrom, hto⟩ := h
  obtain ⟨units, hunits, hseconds⟩ := ofSeconds_of_isNameable hnameable
  rw [Option.mem_def, hown, Option.some.injEq] at hunits
  subst hunits
  have hday : (0 : Int) < microsPerDay := by decide
  have hinside : ¬ Moment.IsOutside (instantOf own) := by
    rw [Moment.IsOutside]
    omega
  have hbefore : ¬ Moment.IsOutside (instantOf own - microsPerDay) := by
    rw [Moment.IsOutside]
    omega
  have hyear := not_isOutside_iff.1 hinside
  have hyearBefore := not_isOutside_iff.1 hbefore
  cases hm : Moment.ofInstant? (instantOf own) with
  | none => exact absurd (Moment.ofInstant?_eq_none.1 hm) hinside
  | some m =>
    refine ⟨m, ?_⟩
    rw [hseconds, if_neg, if_neg (by omega), hm]
    simp only [Bool.or_eq_true, decide_eq_true_eq]
    omega

theorem isNameable_of_ofSeconds {x : Number} {m : Moment} (h : ofSeconds x = .ok m) :
    isNameable x = true := by
  unfold ofSeconds at h
  cases hunits : x.signedUnits? with
  | none =>
    rw [hunits] at h
    dsimp only at h
    split at h
    · cases h
    · cases h
  | some units =>
    rw [hunits] at h
    dsimp only at h
    split at h
    · cases h
    · rename_i hclock
      split at h
      · cases h
      · rename_i hcalendar
        rw [isNameable, hunits, Option.any_some]
        simp only [Bool.not_eq_true, Bool.not_eq_false'] at hclock hcalendar
        rw [hclock, hcalendar]
        rfl

/-- Only a time stamp that lies in the calendar with the day before it is read. -/
theorem isWithin_of_ofSeconds {x : Number} {m : Moment} (h : ofSeconds x = .ok m) :
    isWithin x = true := by
  have hnameable := isNameable_of_ofSeconds h
  obtain ⟨units, hunits, hseconds⟩ := ofSeconds_of_isNameable hnameable
  rw [hseconds] at h
  split at h
  · cases h
  · rename_i hyear
    simp only [Bool.or_eq_true, decide_eq_true_eq] at hyear
    split at h
    · cases h
    · rename_i hbefore
      have hfirst : Moment.first.instant ≤ instantOf units := one_le_yearOf_iff.1 (by omega)
      have hend := (yearOf_le_iff hfirst).1 (by omega)
      have hearlier := one_le_yearOf_iff.1 (Int.not_lt.1 hbefore)
      rw [isWithin, hnameable, hunits, Option.any_some]
      simp only [Bool.true_and, Bool.and_eq_true, decide_eq_true_eq]
      omega

/-- A time stamp that the clock can name is read, or its year is out of range. -/
theorem ofSeconds_error_of_isNameable {x : Number} (h : isNameable x = true) {fault : Fault}
    (herror : ofSeconds x = .error fault) : ∃ cause, fault = .invalid cause := by
  obtain ⟨units, -, hseconds⟩ := ofSeconds_of_isNameable h
  rw [hseconds] at herror
  split at herror
  · cases herror
    exact ⟨_, rfl⟩
  · rename_i hyear
    simp only [Bool.or_eq_true, decide_eq_true_eq] at hyear
    split at herror
    · cases herror
      exact ⟨_, rfl⟩
    · split at herror
      · cases herror
      · rename_i hnone
        have hinside : ¬ Moment.IsOutside (instantOf units) := not_isOutside_iff.2 (by omega)
        exact absurd (Moment.ofInstant?_eq_none.1 hnone) hinside

def secondsOf (n : Int) : Number := Number.ofUnits (n < 0) (n.natAbs * Number.unit) 1000

private theorem isFinite_of_isNameable {x : Number} (h : isNameable x = true) :
    x.isFinite = true := by
  cases x with
  | nan => cases h
  | real negative rank bounded =>
    rw [Number.isFinite, decide_eq_true_eq]
    by_contra hinfinite
    rw [isNameable, Number.signedUnits?, if_neg hinfinite] at h
    cases h

theorem ofMillis_of_isNameable {n : Int} (h : isNameable (secondsOf n) = true) :
    ofMillis n = ofSeconds (secondsOf n) := by
  have hfinite := isFinite_of_isNameable h
  rw [secondsOf] at hfinite ⊢
  unfold ofMillis
  exact if_pos hfinite

theorem exists_ofMillis {n : Int} (h : isWithin (secondsOf n) = true) :
    ∃ m, ofMillis n = .ok m := by
  rw [ofMillis_of_isNameable (isNameable_of_isWithin h)]
  exact exists_ofSeconds h

theorem ofSeconds_of_ofMillis {n : Int} {m : Moment} (h : ofMillis n = .ok m) :
    ofSeconds (secondsOf n) = .ok m := by
  unfold ofMillis at h
  dsimp only at h
  split at h
  · exact h
  · cases h

end Cuaderno.Epoch
