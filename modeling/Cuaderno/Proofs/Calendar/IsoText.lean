import Cuaderno.Calendar.Iso
import Mathlib.Algebra.Group.Nat.Defs
import Mathlib.Data.List.TakeWhile

/-!
# Standard texts read back

The standard text of a date or a moment, to the microsecond, is read as that date or moment: every
part is padded to its width, and read by its place.
-/

namespace Cuaderno

namespace Text

theorem latinDigit?_digitChar : ∀ d < 10, latinDigit? (digitChar d) = some d := by
  decide

private theorem natText_of_lt {n : Nat} (h : n < 10) : natText n = [digitChar n] := by
  rw [natText, digitsOf, dif_pos h, List.map_singleton]

theorem natText_of_not_lt {n : Nat} (h : ¬ n < 10) :
    natText n = natText (n / 10) ++ [digitChar (n % 10)] := by
  rw [natText, digitsOf, dif_neg h, List.map_append, List.map_singleton, natText]

theorem paddedText_one {n : Nat} (h : n < 10) : paddedText 1 n = [digitChar n] := by
  rw [paddedText, natText_of_lt h]
  rfl

/-- The last digit stands behind the others, padded to the width that is left. -/
theorem paddedText_succ (w n : Nat) :
    paddedText (w + 2) n = paddedText (w + 1) (n / 10) ++ [digitChar (n % 10)] := by
  by_cases h : n < 10
  · have hd : n / 10 = 0 := by omega
    have hm : n % 10 = n := by omega
    have hz : natText 0 = ['0'] := by decide +kernel
    rw [paddedText, paddedText, natText_of_lt h, hd, hm, hz]
    simp only [List.length_singleton]
    rw [← List.replicate_succ']
    rfl
  · have hw : w + 2 - ((natText (n / 10)).length + 1) = w + 1 - (natText (n / 10)).length := by
      omega
    rw [paddedText, paddedText, natText_of_not_lt h, List.length_append, List.length_singleton, hw,
      List.append_assoc]

theorem length_paddedText (w n : Nat) (h : n < 10 ^ (w + 1)) :
    (paddedText (w + 1) n).length = w + 1 := by
  induction w generalizing n with
  | zero => rw [paddedText_one (by omega), List.length_singleton]
  | succ w ih =>
    rw [paddedText_succ, List.length_append, ih (n / 10) (by rw [Nat.pow_succ] at h; omega),
      List.length_singleton]

end Text

namespace Iso

open Cuaderno.Text (digitChar latinDigit?_digitChar paddedText paddedText_one paddedText_succ)

private theorem number?_append_digit (cs : List Char) {d : Nat} (h : d < 10) :
    number? (cs ++ [digitChar d]) = (number? cs).map (· * 10 + d) := by
  rw [number?, number?, List.mapM_append]
  cases hcs : cs.mapM Text.latinDigit? with
  | none => rfl
  | some ds => simp [latinDigit?_digitChar d h]

/-- A number that is padded to a width is read back, if it fits. -/
theorem number?_paddedText (w n : Nat) (h : n < 10 ^ (w + 1)) :
    number? (paddedText (w + 1) n) = some n := by
  induction w generalizing n with
  | zero =>
    rw [paddedText_one (by omega), ← List.nil_append [digitChar n],
      number?_append_digit _ (by omega)]
    simp [number?, Text.ofDigits]
  | succ w ih =>
    rw [paddedText_succ, number?_append_digit _ (by omega),
      ih (n / 10) (by rw [Nat.pow_succ] at h; omega), Option.map_some]
    congr 1
    omega

theorem isDigit_of_mem_paddedText (w n : Nat) (h : n < 10 ^ (w + 1)) :
    ∀ c ∈ paddedText (w + 1) n, ∃ d < 10, c = digitChar d := by
  induction w generalizing n with
  | zero =>
    rw [paddedText_one (by omega)]
    intro c hc
    exact ⟨n, by omega, List.mem_singleton.1 hc⟩
  | succ w ih =>
    rw [paddedText_succ]
    intro c hc
    rcases List.mem_append.1 hc with hc | hc
    · exact ih (n / 10) (by rw [Nat.pow_succ] at h; omega) c hc
    · exact ⟨n % 10, by omega, List.mem_singleton.1 hc⟩

private theorem digit_ne_W {d : Nat} (h : d < 10) : digitChar d ≠ 'W' := by
  revert d
  decide

theorem exists_pair {n : Nat} (h : n < 100) : ∃ a b, paddedText 2 n = [a, b] ∧
    number? [a, b] = some n ∧ a ≠ 'W' := by
  have hp : paddedText 2 n = [digitChar (n / 10), digitChar (n % 10)] := by
    rw [paddedText_succ, paddedText_one (by omega), List.singleton_append]
  refine ⟨digitChar (n / 10), digitChar (n % 10), hp, ?_, digit_ne_W (by omega)⟩
  rw [← hp]
  exact number?_paddedText 1 n h

private theorem exists_year {n : Nat} (h : n < 10000) : ∃ a b c d, paddedText 4 n = [a, b, c, d] ∧
    number? [a, b, c, d] = some n := by
  have hl := Text.length_paddedText 3 n h
  have hn := number?_paddedText 3 n h
  match hp : paddedText 4 n, hl with
  | [a, b, c, d], _ =>
    rw [hp] at hn
    exact ⟨a, b, c, d, rfl, hn⟩

theorem day_lt (d : Date) : d.day < 100 := by
  have := d.valid.2.2.2
  unfold daysInMonth at this
  split at this <;> split at this <;> omega

private theorem date?_isoText (d : Date) :
    date? d.isoText = some d ∧ ∃ y₁ y₂ y₃ y₄ m₁ m₂ d₁ d₂, m₁ ≠ 'W' ∧
      d.isoText = [y₁, y₂, y₃, y₄, '-', m₁, m₂, '-', d₁, d₂] := by
  have hv := d.valid
  obtain ⟨y₁, y₂, y₃, y₄, hy, hyear⟩ := exists_year (n := d.year) (by omega)
  obtain ⟨m₁, m₂, hm, hmonth, hW⟩ := exists_pair (n := d.month) (by omega)
  obtain ⟨d₁, d₂, hd, hdays, -⟩ := exists_pair (day_lt d)
  have htext : d.isoText = [y₁, y₂, y₃, y₄, '-', m₁, m₂, '-', d₁, d₂] := by
    rw [Date.isoText, hy, hm, hd]
    rfl
  refine ⟨?_, y₁, y₂, y₃, y₄, m₁, m₂, d₁, d₂, hW, htext⟩
  rw [htext]
  simp [date?, calendarDate?, hW, hyear, hmonth, hdays]

/-- The fraction behind the seconds, when there is one, is read in microseconds. -/
theorem fraction?_paddedText {n : Nat} (h : n < microsPerSecond) :
    fraction? (paddedText 6 n) = some (n, false) := by
  have hl : (paddedText 6 n).length = 6 := Text.length_paddedText 5 n h
  have hn : number? (paddedText 6 n) = some n := number?_paddedText 5 n h
  have htake : (paddedText 6 n).take 6 = paddedText 6 n := List.take_of_length_le (by omega)
  have hdrop : (paddedText 6 n).drop 6 = [] := List.drop_of_length_le (by omega)
  simp [fraction?, htake, hdrop, hn, hl, isOver]

theorem clock?_isoText (t : TimeOfDay) :
    clock? t.isoText = some ⟨t.hour, t.minute, t.second, t.micro, false⟩ := by
  have ht := t.lt
  have hmicro : t.micro < microsPerSecond := Nat.mod_lt _ (by decide)
  obtain ⟨h₁, h₂, hh, hhour, -⟩ := exists_pair (n := t.hour) (by
    simp only [TimeOfDay.hour, microsPerSecond, microsPerDay] at ht ⊢
    omega)
  obtain ⟨m₁, m₂, hm, hminute, -⟩ := exists_pair (n := t.minute) (by
    simp only [TimeOfDay.minute]
    omega)
  obtain ⟨s₁, s₂, hs, hsecond, -⟩ := exists_pair (n := t.second) (by
    simp only [TimeOfDay.second]
    omega)
  rw [TimeOfDay.isoText, TimeOfDay.minuteText, hh, hm, hs]
  by_cases hz : t.micro = 0
  · simp [clock?, pairs?, hhour, hminute, hsecond, hz]
  · obtain ⟨c, cs, hc⟩ : ∃ c cs, paddedText 6 t.micro = c :: cs := by
      have hl := Text.length_paddedText 5 t.micro hmicro
      cases hp : paddedText 6 t.micro with
      | nil => simp [hp] at hl
      | cons c cs => exact ⟨c, cs, rfl⟩
    have hf := fraction?_paddedText hmicro
    rw [hc] at hf
    simp [clock?, pairs?, hhour, hminute, hsecond, hz, hc, hf]

def IsClockCharacter (c : Char) : Prop := (∃ d < 10, c = digitChar d) ∨ c = ':' ∨ c = '.'

theorem isClockCharacter_of_mem_isoText (t : TimeOfDay) : ∀ c ∈ t.isoText, IsClockCharacter c := by
  have ht := t.lt
  have hh := isDigit_of_mem_paddedText 1 t.hour (by
    simp only [TimeOfDay.hour, microsPerSecond, microsPerDay] at ht ⊢
    omega)
  have hm := isDigit_of_mem_paddedText 1 t.minute (by
    simp only [TimeOfDay.minute]
    omega)
  have hs := isDigit_of_mem_paddedText 1 t.second (by
    simp only [TimeOfDay.second]
    omega)
  have hf := isDigit_of_mem_paddedText 5 t.micro (Nat.mod_lt _ (by decide))
  intro c hc
  simp only [TimeOfDay.isoText, TimeOfDay.minuteText, List.mem_append, List.mem_cons] at hc
  rcases hc with ((hc | rfl | hc) | rfl | hc) | hc
  · exact .inl (hh c hc)
  · exact .inr (.inl rfl)
  · exact .inl (hm c hc)
  · exact .inr (.inl rfl)
  · exact .inl (hs c hc)
  · split at hc
    · cases hc
    · rcases List.mem_cons.1 hc with rfl | hc
      · exact .inr (.inr rfl)
      · exact .inl (hf c hc)

theorem IsClockCharacter.not_opensZone {c : Char} (h : IsClockCharacter c) :
    opensZone c = false := by
  rcases h with ⟨d, hd, rfl⟩ | rfl | rfl
  · revert d
    decide
  · decide
  · decide

private theorem digit_ne_Z {d : Nat} (h : d < 10) : digitChar d ≠ 'Z' := by
  revert d
  decide

theorem Z_not_mem_isoText (m : Moment) : 'Z' ∉ m.isoText := by
  have hv := m.date.valid
  have hy := isDigit_of_mem_paddedText 3 m.date.year (by omega)
  have hm := isDigit_of_mem_paddedText 1 m.date.month (by omega)
  have hd := isDigit_of_mem_paddedText 1 m.date.day (day_lt m.date)
  have digits {cs : List Char} (h : ∀ c ∈ cs, ∃ d < 10, c = digitChar d) : 'Z' ∉ cs := by
    intro hmem
    obtain ⟨d, hd, heq⟩ := h _ hmem
    exact digit_ne_Z hd heq.symm
  have htime : 'Z' ∉ m.time.isoText := by
    intro hmem
    rcases isClockCharacter_of_mem_isoText _ _ hmem with ⟨d, hd, heq⟩ | heq | heq
    · exact digit_ne_Z hd heq.symm
    · exact absurd heq (by decide)
    · exact absurd heq (by decide)
  simp only [Moment.isoText, Moment.textWith, Date.isoText, List.mem_append, List.mem_cons, not_or]
  exact ⟨⟨⟨digits hy, by decide, digits hm⟩, by decide, digits hd⟩, by decide, htime⟩

/-- The parts of a time of day give that time. -/
theorem time?_parts (t : TimeOfDay) :
    Reading.time? ⟨t.hour, t.minute, t.second, t.micro, false⟩ = some t := by
  have ht := t.lt
  rw [Reading.time?, TimeOfDay.of?, dif_pos]
  · congr 2
    simp only [TimeOfDay.hour, TimeOfDay.minute, TimeOfDay.second, TimeOfDay.micro,
      microsPerSecond]
    omega
  · simp only [TimeOfDay.hour, TimeOfDay.minute, TimeOfDay.second, TimeOfDay.micro,
      microsPerSecond, microsPerDay] at ht ⊢
    omega

theorem time?_isoText (t : TimeOfDay) : time? t.isoText = some (t, none) := by
  have hall : ∀ c ∈ t.isoText, (!opensZone c) = true := by
    intro c hc
    rw [(isClockCharacter_of_mem_isoText t c hc).not_opensZone]
    rfl
  have htake : t.isoText.takeWhile (!opensZone ·) = t.isoText := List.takeWhile_eq_self_iff.2 hall
  have hdrop : t.isoText.dropWhile (!opensZone ·) = [] := List.dropWhile_eq_nil_iff.2 hall
  simp [time?, htake, hdrop, clock?_isoText, time?_parts]

/-- Behind the text of a date and one character, a time of day is read. -/
theorem stamp?_dateText_append (d : Date) (separator : Char) (cs : List Char) :
    stamp? (d.isoText ++ separator :: cs) =
      (time? cs).map fun (time, offset) => ⟨⟨d, time⟩, offset⟩ := by
  obtain ⟨hdate, y₁, y₂, y₃, y₄, m₁, m₂, d₁, d₂, hW, htext⟩ := date?_isoText d
  have hlen : dateLength? (d.isoText ++ separator :: cs) = some 10 := by
    simp [htext, dateLength?, hW]
  have htake : (d.isoText ++ separator :: cs).take 10 = d.isoText := by
    rw [htext]
    rfl
  have hdrop : (d.isoText ++ separator :: cs).drop 10 = separator :: cs := by
    rw [htext]
    rfl
  cases ht : time? cs <;> simp [stamp?, hlen, htake, hdrop, hdate, ht]

/-- The standard text of a moment is read as that moment, without an offset. -/
theorem stamp?_isoText (m : Moment) : stamp? m.isoText = some ⟨m, none⟩ := by
  rw [Moment.isoText, Moment.textWith, stamp?_dateText_append, time?_isoText]
  rfl

/-- The standard text of a date is read as its midnight. -/
theorem stamp?_dateText (d : Date) : stamp? d.isoText = some ⟨.startOf d, none⟩ := by
  obtain ⟨hdate, y₁, y₂, y₃, y₄, m₁, m₂, d₁, d₂, hW, htext⟩ := date?_isoText d
  have hlen : dateLength? d.isoText = some 10 := by
    simp [htext, dateLength?, hW]
  have htake : d.isoText.take 10 = d.isoText := by
    rw [htext]
    rfl
  have hdrop : d.isoText.drop 10 = [] := by
    rw [htext]
    rfl
  simp [stamp?, hlen, htake, hdrop, hdate, Moment.startOf]

end Iso

end Cuaderno
