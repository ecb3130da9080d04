import Cuaderno.Proofs.Calendar.StampText

/-!
# Dates as people write them, read back

A date is typed in its standard text, or with the day first and perhaps an hour and a minute behind
it (`DayFirst`). Both are read as what they write, at any time of evaluation, and a text with the
day first that writes no date is none (`moment_written`). No reader takes a text that is meant for
another one: a date with the day first has a mark before its fourth character, where a standard
text has its year, and no word of a relative date has such a mark.
-/

namespace Cuaderno

namespace Text

private theorem digitZeros_bounds : ∀ z ∈ digitZeros, (48 ≤ z ∧ z + 9 < 0x85) ∨
    (0xA0 < z ∧ z + 9 < 0x1680) ∨ (0x1680 < z ∧ z + 9 < 0x2000) ∨ 0x3000 < z := by
  decide

private theorem isBlank_of_isDecimal {c : Char} (h : isDecimal c = true) : isBlank c = false := by
  obtain ⟨v, hv⟩ := Option.isSome_iff_exists.1 h
  obtain ⟨z, hz, -⟩ := Option.map_eq_some_iff.1 hv
  have hbounds := digitZeros_bounds z (List.mem_of_find?_eq_some hz)
  have hrange := List.find?_some hz
  simp only [Bool.and_eq_true, decide_eq_true_eq] at hrange
  simp only [isBlank, Bool.or_eq_false_iff, Bool.and_eq_false_iff, decide_eq_false_iff_not,
    beq_eq_false_iff_ne]
  omega

/-- A written number: some decimal digits, of any script. -/
structure Numeral (least most : Nat) where
  text : List Char
  digits : ∀ c ∈ text, isDecimal c = true
  least_le : least ≤ text.length
  le_most : text.length ≤ most

def Numeral.value {least most : Nat} (n : Numeral least most) : Nat :=
  ofDigits (n.text.filterMap decimalValue?)

end Text

/-- A time of day is the one of its hour, minute, second and microsecond. -/
theorem TimeOfDay.of?_eq_some_iff {hour minute second micro : Nat} {t : TimeOfDay} :
    of? hour minute second micro = some t ↔
      t.hour = hour ∧ t.minute = minute ∧ t.second = second ∧ t.micro = micro := by
  constructor
  · intro h
    unfold of? at h
    split at h
    · rename_i hvalid
      cases h
      simp only [TimeOfDay.hour, TimeOfDay.minute, TimeOfDay.second, TimeOfDay.micro,
        microsPerSecond] at hvalid ⊢
      omega
    · cases h
  · rintro ⟨rfl, rfl, rfl, rfl⟩
    exact Iso.time?_parts t

namespace Written

open Cuaderno.Text (Numeral decimalValue? isBlank isBlank_of_isDecimal isDecimal)

variable {limit : Nat} (rest : List Char)

private theorem digits_append {cs : List Char} (hcs : ∀ c ∈ cs, isDecimal c = true)
    (hlength : cs.length ≤ limit) (hrest : ∀ c ∈ rest.head?, isDecimal c = false) :
    digits limit (cs ++ rest) = (cs.filterMap decimalValue?, rest) := by
  induction cs generalizing limit with
  | nil =>
    cases limit with
    | zero => rfl
    | succ limit =>
      cases rest with
      | nil => rfl
      | cons c rest =>
        have hnone : decimalValue? c = none := by
          simpa [isDecimal] using hrest c rfl
        simp [digits, hnone]
  | cons c cs ih =>
    rw [List.forall_mem_cons] at hcs
    obtain ⟨v, hv⟩ := Option.isSome_iff_exists.1 hcs.1
    cases limit with
    | zero => cases hlength
    | succ limit =>
      rw [List.cons_append, digits, hv, ih hcs.2 (Nat.le_of_succ_le_succ hlength),
        List.filterMap_cons_some hv]

private theorem length_values {least most : Nat} (n : Numeral least most) :
    (n.text.filterMap decimalValue?).length = n.text.length :=
  List.filterMap_length_eq_length.2 n.digits

private theorem number?_append (n : Numeral 1 limit)
    (hrest : ∀ c ∈ rest.head?, isDecimal c = false) :
    number? limit (n.text ++ rest) = some (n.value, rest) := by
  have hlength := length_values n
  have hleast := n.least_le
  rw [number?, digits_append rest n.digits n.le_most hrest, Numeral.value]
  cases hds : n.text.filterMap decimalValue? with
  | nil =>
    rw [hds, List.length_nil] at hlength
    omega
  | cons d ds => rfl

private theorem fixedNumber?_append (n : Numeral limit limit)
    (hrest : ∀ c ∈ rest.head?, isDecimal c = false) :
    fixedNumber? limit (n.text ++ rest) = some (n.value, rest) := by
  have hlength : (n.text.filterMap decimalValue?).length = limit :=
    (length_values n).trans (Nat.le_antisymm n.le_most n.least_le)
  rw [fixedNumber?, digits_append rest n.digits n.le_most hrest]
  simp only [hlength, if_true, Numeral.value]

structure HourMinute where
  gap : Char
  hour : Numeral 1 2
  minute : Numeral 2 2
  isGap : gap = ' ' ∨ gap = 'T'

/-- A date as it is written with the day first, and perhaps a time of day. -/
structure DayFirst where
  day : Numeral 1 2
  month : Numeral 1 2
  year : Numeral 4 4
  mark₁ : Char
  mark₂ : Char
  isMark₁ : mark₁ = '/' ∨ mark₁ = '-'
  isMark₂ : mark₂ = '/' ∨ mark₂ = '-'
  time : Option HourMinute

namespace DayFirst

def timeText (w : DayFirst) : List Char :=
  match w.time with
  | none => []
  | some t => t.gap :: (t.hour.text ++ ':' :: t.minute.text)

def text (w : DayFirst) : List Char :=
  w.day.text ++ w.mark₁ :: (w.month.text ++ w.mark₂ :: (w.year.text ++ w.timeText))

def hour (w : DayFirst) : Nat := (w.time.map (·.hour.value)).getD 0

def minute (w : DayFirst) : Nat := (w.time.map (·.minute.value)).getD 0

structure Names (w : DayFirst) (m : Moment) : Prop where
  year : m.date.year = w.year.value
  month : m.date.month = w.month.value
  day : m.date.day = w.day.value
  hour : m.time.hour = w.hour
  minute : m.time.minute = w.minute
  second : m.time.second = 0
  micro : m.time.micro = 0

variable {w : DayFirst} {m : Moment}

private theorem not_isDecimal_mark {c : Char} (h : c = '/' ∨ c = '-') : isDecimal c = false := by
  rcases h with rfl | rfl <;> decide

private theorem dayTime?_timeText (w : DayFirst) :
    dayTime? w.timeText = some (w.hour, w.minute) := by
  unfold timeText hour minute
  cases w.time with
  | none => rfl
  | some t =>
    have hminute := fixedNumber?_append [] t.minute (by simp)
    rw [List.append_nil] at hminute
    have hcolon : isDecimal ':' = false := by decide
    have hhour := number?_append (':' :: t.minute.text) t.hour (by simp [hcolon])
    rcases t.isGap with hgap | hgap <;> simp [dayTime?, hgap, hhour, hminute]

private theorem dayFirst?_text (w : DayFirst) : dayFirst? w.text = do
    let date ← Date.of? w.year.value w.month.value w.day.value
    let time ← TimeOfDay.of? w.hour w.minute 0 0
    return ⟨date, time⟩ := by
  have hmark₁ := not_isDecimal_mark w.isMark₁
  have hmark₂ := not_isDecimal_mark w.isMark₂
  have htime : ∀ c ∈ w.timeText.head?, isDecimal c = false := by
    unfold timeText
    cases w.time with
    | none => simp
    | some t => rcases t.isGap with hgap | hgap <;> simp [hgap] <;> decide
  have hday := number?_append
    (w.mark₁ :: (w.month.text ++ w.mark₂ :: (w.year.text ++ w.timeText))) w.day (by simp [hmark₁])
  have hmonth := number?_append (w.mark₂ :: (w.year.text ++ w.timeText)) w.month (by simp [hmark₂])
  have hyear := fixedNumber?_append w.timeText w.year htime
  have hseparator {c : Char} (hc : c = '/' ∨ c = '-') (cs : List Char) :
      separator? (c :: cs) = some cs := by
    rcases hc with rfl | rfl <;> rfl
  simp only [dayFirst?, text, hday, hmonth, hyear, hseparator w.isMark₁, hseparator w.isMark₂,
    dayTime?_timeText, Option.bind_eq_bind, Option.bind_some]

private theorem dayFirst?_eq_some : dayFirst? w.text = some m ↔ w.Names m := by
  rw [dayFirst?_text]
  constructor
  · intro h
    obtain ⟨d, hd, h⟩ := Option.bind_eq_some_iff.1 h
    obtain ⟨t, ht, h⟩ := Option.bind_eq_some_iff.1 h
    cases h
    obtain ⟨hyear, hmonth, hday⟩ := Date.of?_eq_some hd
    obtain ⟨hhour, hminute, hsecond, hmicro⟩ := TimeOfDay.of?_eq_some_iff.1 ht
    exact ⟨hyear, hmonth, hday, hhour, hminute, hsecond, hmicro⟩
  · intro h
    have htime := TimeOfDay.of?_eq_some_iff.2 ⟨h.hour, h.minute, h.second, h.micro⟩
    rw [← h.year, ← h.month, ← h.day, Date.of?_self, htime]
    rfl

example : dayFirst? "1/12/2024 9:05".toList
    = some ⟨⟨2024, 12, 1, by decide⟩, ⟨32700000000, by decide⟩⟩ := by
  decide +kernel

/-- A date with the day first is no standard text: there its first mark would be a digit of the
year. -/
theorem stamp?_text (w : DayFirst) : Iso.stamp? w.text = none := by
  cases hs : Iso.stamp? w.text with
  | none => rfl
  | some s =>
    obtain ⟨y₁, y₂, y₃, y₄, rest, htext, hdigits⟩ := Iso.exists_year_of_stamp? hs
    have hmark : w.mark₁ ∈ w.text.take 3 := by
      have hleast := w.day.least_le
      have hmost := w.day.le_most
      rw [text]
      match w.day.text, hleast, hmost with
      | [_], _, _ => simp
      | [_, _], _, _ => simp
    rw [htext] at hmark
    have hdigit : Iso.isDigit w.mark₁ = true := hdigits _ (List.mem_append_left [y₄] hmark)
    rcases w.isMark₁ with hown | hown <;> simp [hown, Iso.isDigit, Text.latinDigit?] at hdigit

private theorem exists_digits_last (w : DayFirst) :
    ∃ front last, w.text = front ++ last ∧ last ≠ [] ∧
    ∀ c ∈ last, isDecimal c = true := by
  have hne {least most : Nat} (n : Numeral (least + 1) most) : n.text ≠ [] := by
    have hleast := n.least_le
    rintro hnil
    rw [hnil, List.length_nil] at hleast
    omega
  unfold text timeText
  cases w.time with
  | none =>
    refine ⟨w.day.text ++ w.mark₁ :: (w.month.text ++ [w.mark₂]), w.year.text, ?_, hne w.year,
      w.year.digits⟩
    simp
  | some t =>
    refine ⟨w.day.text ++ w.mark₁ :: (w.month.text ++ w.mark₂ :: (w.year.text ++
      t.gap :: (t.hour.text ++ [':']))), t.minute.text, ?_, hne t.minute, t.minute.digits⟩
    simp

private theorem trim_text (w : DayFirst) : Text.trim w.text = w.text := by
  apply Text.trim_eq_self
  · intro c hc
    have hleast := w.day.least_le
    have hdigits := w.day.digits
    rw [text] at hc
    cases hday : w.day.text with
    | nil =>
      rw [hday, List.length_nil] at hleast
      omega
    | cons d ds =>
      rw [hday] at hc hdigits
      cases hc
      exact isBlank_of_isDecimal (hdigits _ List.mem_cons_self)
  · intro c hc
    obtain ⟨front, last, htext, hne, hdigits⟩ := w.exists_digits_last
    rw [htext, List.getLast?_append_of_ne_nil _ hne] at hc
    exact isBlank_of_isDecimal (hdigits c (List.mem_of_mem_getLast? hc))

private theorem moment_text (w : DayFirst) (clock : Clock) :
    moment w.text clock = .ok (dayFirst? w.text) := by
  have hne : w.text ≠ [] := by simp [text]
  have hrelative : Relative.resolve false w.text clock = .ok none := by
    apply Relative.resolve_of_none
    have hmem : w.mark₁ ∈ Text.trim w.text := by
      rw [trim_text, text]
      simp
    rcases w.isMark₁ with hmark | hmark
    all_goals
      rw [hmark] at hmem
      apply Relative.ofText?_of_mem hmem (by decide) (by decide) (by decide +kernel)
      intro r
      cases r <;> decide +kernel
  simp [moment, trim_text, hne, hrelative, stamp?_text]

end DayFirst

/-- The standard text of a moment is read as that moment. A text with the day first is read as the
moment that has its numbers, and as none if there is no such moment. -/
theorem moment_written (clock : Clock) :
    (∀ m : Moment, moment m.isoText clock = .ok (some m)) ∧
    (∀ (w : DayFirst) (m : Moment), moment w.text clock = .ok (some m) ↔ w.Names m) ∧
    ∀ w : DayFirst, moment w.text clock = .ok none ↔ ¬ ∃ m, w.Names m := by
  refine ⟨?_, ?_, ?_⟩
  · intro m
    rw [moment_of_stamp? (by rw [Iso.trim_isoText, Iso.stamp?_isoText])]
    rfl
  · intro w m
    rw [DayFirst.moment_text, Except.ok.injEq, DayFirst.dayFirst?_eq_some]
  · intro w
    simp only [DayFirst.moment_text, Except.ok.injEq, ← DayFirst.dayFirst?_eq_some,
      Option.eq_none_iff_forall_ne_some, not_exists, ne_eq]

end Written

end Cuaderno
