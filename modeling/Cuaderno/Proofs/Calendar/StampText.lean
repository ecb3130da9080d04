import Cuaderno.Proofs.Calendar.Beyond
import Cuaderno.Proofs.Calendar.IsoText

/-!
# Written bounds of time

A day or a stamp that was written as its standard text is read as the same day or stamp, and as the
same span of time (`Written.span_dateText`, `Written.span_stampText`). The zone of a stamp is
written like a time of day. A reader that finds no whole second in it takes it for zero, so an
offset of less than a second is lost (`Iso.stamp?_textWith`).
-/

namespace Cuaderno

def Stamp.IsZoned (s : Stamp) : Prop := ∀ offset ∈ s.offset, offset.natAbs < microsPerDay

private theorem Stamp.isZoned_of_none (m : Moment) : Stamp.IsZoned ⟨m, none⟩ := by
  rintro offset ⟨⟩

private theorem Stamp.textWith_of_none (separator : Char) (m : Moment) :
    Stamp.textWith separator ⟨m, none⟩ = m.textWith separator := List.append_nil _

/-- A stamp as it is read back: an offset of less than a second is read as zero. -/
def Stamp.readBack (s : Stamp) : Stamp where
  reading := s.reading
  offset := s.offset.map fun offset => if offset.natAbs < microsPerSecond then 0 else offset

namespace Iso

def zoneTime (offset : Int) (h : offset.natAbs < microsPerDay) : TimeOfDay := ⟨offset.natAbs, h⟩

/-- A zone is written like a time of day, without its seconds when it has none. -/
theorem offsetText_eq {offset : Int} (h : offset.natAbs < microsPerDay) :
    Stamp.offsetText offset = (if offset < 0 then '-' else '+') ::
      if (zoneTime offset h).second = 0 ∧ (zoneTime offset h).micro = 0 then
        (zoneTime offset h).minuteText
      else (zoneTime offset h).isoText := by
  have hhour : offset.natAbs / microsPerSecond / 3600 = (zoneTime offset h).hour := by
    rw [Nat.div_div_eq_div_mul, Nat.mul_comm]
    rfl
  have hminute : offset.natAbs / microsPerSecond / 60 % 60 = (zoneTime offset h).minute := by
    rw [Nat.div_div_eq_div_mul, Nat.mul_comm]
    rfl
  have hsecond : offset.natAbs / microsPerSecond % 60 = (zoneTime offset h).second := rfl
  have hmicro : offset.natAbs % microsPerSecond = (zoneTime offset h).micro := rfl
  simp only [Stamp.offsetText, hhour, hminute, hsecond, hmicro, TimeOfDay.isoText,
    TimeOfDay.minuteText]
  by_cases hm : (zoneTime offset h).micro = 0
  · by_cases hs : (zoneTime offset h).second = 0
    · simp [hm, hs]
    · simp [hm, hs]
  · simp [hm]

private theorem clock?_minuteText (t : TimeOfDay) :
    clock? t.minuteText = some ⟨t.hour, t.minute, 0, 0, false⟩ := by
  have ht := t.lt
  obtain ⟨h₁, h₂, hh, hhour, -⟩ := exists_pair (n := t.hour) (by
    simp only [TimeOfDay.hour, microsPerSecond, microsPerDay] at ht ⊢
    omega)
  obtain ⟨m₁, m₂, hm, hminute, -⟩ := exists_pair (n := t.minute) (by
    simp only [TimeOfDay.minute]
    omega)
  rw [TimeOfDay.minuteText, hh, hm]
  simp [clock?, pairs?, hhour, hminute]

private theorem offset?_of_clock? {sign : Char} (hsign : sign ≠ 'Z') {cs : List Char}
    {t : TimeOfDay}
    (hclock : clock? cs = some ⟨t.hour, t.minute, t.second, t.micro, false⟩) :
    offset? (sign :: cs) = some (if t.micros < microsPerSecond then 0
      else if sign = '-' then -(t.micros : Int) else t.micros) := by
  have ht := t.lt
  have hseconds : (t.hour * 60 + t.minute) * 60 + t.second = t.micros / microsPerSecond := by
    simp only [TimeOfDay.hour, TimeOfDay.minute, TimeOfDay.second, microsPerSecond]
    omega
  have hmicros : t.micros / microsPerSecond * microsPerSecond + t.micro = t.micros := by
    simp only [TimeOfDay.micro, microsPerSecond]
    omega
  have hnone : t.micros / microsPerSecond = 0 ↔ t.micros < microsPerSecond := by
    simp only [microsPerSecond]
    omega
  rw [offset?]
  · simp only [hclock, Option.bind_eq_bind, Option.bind_some, hseconds, hmicros, hnone, ht,
      Bool.false_eq_true, if_false, if_true]
    split_ifs <;> rfl
  · exact hsign

/-- A zone is read as its offset, unless it is written without a whole second. -/
theorem offset?_offsetText {offset : Int} (h : offset.natAbs < microsPerDay) :
    offset? (Stamp.offsetText offset) =
      some (if offset.natAbs < microsPerSecond then 0 else offset) := by
  have hclock : clock? (if (zoneTime offset h).second = 0 ∧ (zoneTime offset h).micro = 0 then
        (zoneTime offset h).minuteText else (zoneTime offset h).isoText) =
      some ⟨(zoneTime offset h).hour, (zoneTime offset h).minute, (zoneTime offset h).second,
        (zoneTime offset h).micro, false⟩ := by
    split
    · rename_i hz
      rw [clock?_minuteText, hz.1, hz.2]
    · exact clock?_isoText _
  rw [offsetText_eq h]
  by_cases hneg : offset < 0
  · have hoffset : -(offset.natAbs : Int) = offset := by omega
    rw [if_pos hneg, offset?_of_clock? (by decide) hclock, if_pos rfl]
    simp only [zoneTime, hoffset]
  · have hoffset : (offset.natAbs : Int) = offset := by omega
    rw [if_neg hneg, offset?_of_clock? (by decide) hclock, if_neg (by decide : '+' ≠ '-')]
    simp only [zoneTime, hoffset]

private theorem opensZone_of_offsetText (offset : Int) :
    ∃ sign rest, Stamp.offsetText offset = sign :: rest ∧ opensZone sign = true := by
  by_cases hneg : offset < 0
  · exact ⟨'-', _, by rw [Stamp.offsetText, if_pos hneg]; rfl, by decide⟩
  · exact ⟨'+', _, by rw [Stamp.offsetText, if_neg hneg]; rfl, by decide⟩

/-- A time of day with a zone behind it is cut where the zone opens. -/
theorem time?_offsetText (t : TimeOfDay) {offset : Int} (h : offset.natAbs < microsPerDay) :
    time? (t.isoText ++ Stamp.offsetText offset) =
      some (t, some (if offset.natAbs < microsPerSecond then 0 else offset)) := by
  have hall : ∀ c ∈ t.isoText, (!opensZone c) = true := by
    intro c hc
    rw [(isClockCharacter_of_mem_isoText t c hc).not_opensZone]
    rfl
  obtain ⟨sign, rest, hzone, hopens⟩ := opensZone_of_offsetText offset
  have hoffset := offset?_offsetText h
  rw [hzone] at hoffset ⊢
  have htake : (t.isoText ++ sign :: rest).takeWhile (!opensZone ·) = t.isoText := by
    rw [List.takeWhile_append_of_pos hall, List.takeWhile_cons_of_neg (by simp [hopens]),
      List.append_nil]
  have hdrop : (t.isoText ++ sign :: rest).dropWhile (!opensZone ·) = sign :: rest := by
    rw [List.dropWhile_append_of_pos hall, List.dropWhile_cons_of_neg (by simp [hopens])]
  simp [time?, htake, hdrop, clock?_isoText, time?_parts, hoffset]

/-- The text of a stamp is read as that stamp, but for an offset of less than a second. -/
theorem stamp?_textWith {s : Stamp} (h : s.IsZoned) (separator : Char) :
    stamp? (s.textWith separator) = some s.readBack := by
  obtain ⟨⟨d, t⟩, offset⟩ := s
  simp only [Stamp.textWith, Moment.textWith, List.append_assoc, List.cons_append]
  rw [stamp?_dateText_append]
  cases offset with
  | none => simp [time?_isoText, Stamp.readBack]
  | some offset => simp [time?_offsetText t (h offset rfl), Stamp.readBack]

def IsStampCharacter (c : Char) : Prop := IsClockCharacter c ∨ c = '-' ∨ c = '+' ∨ c = 'T'

theorem IsStampCharacter.not_isBlank {c : Char} (h : IsStampCharacter c) :
    Text.isBlank c = false := by
  rcases h with (⟨d, hd, rfl⟩ | rfl | rfl) | rfl | rfl | rfl
  · exact (Text.foldChar_digitChar d hd).1
  all_goals decide

private theorem digit_ne_colon {d : Nat} (h : d < 10) : Text.digitChar d ≠ ':' := by
  revert d
  decide

private theorem isDigit_or_hyphen_of_mem_dateText (d : Date) :
    ∀ c ∈ d.isoText, (∃ n < 10, c = Text.digitChar n) ∨ c = '-' := by
  have hv := d.valid
  intro c hc
  simp only [Date.isoText, List.mem_append, List.mem_cons] at hc
  rcases hc with (hc | rfl | hc) | rfl | hc
  · exact .inl (isDigit_of_mem_paddedText 3 d.year (by omega) c hc)
  · exact .inr rfl
  · exact .inl (isDigit_of_mem_paddedText 1 d.month (by omega) c hc)
  · exact .inr rfl
  · exact .inl (isDigit_of_mem_paddedText 1 d.day (day_lt d) c hc)

private theorem isStampCharacter_of_mem_dateText (d : Date) :
    ∀ c ∈ d.isoText, IsStampCharacter c := by
  intro c hc
  rcases isDigit_or_hyphen_of_mem_dateText d c hc with hdigit | rfl
  · exact .inl (.inl hdigit)
  · exact .inr (.inl rfl)

private theorem isStampCharacter_of_mem_offsetText {offset : Int}
    (h : offset.natAbs < microsPerDay) :
    ∀ c ∈ Stamp.offsetText offset, IsStampCharacter c := by
  intro c hc
  rw [offsetText_eq h, List.mem_cons] at hc
  rcases hc with rfl | hc
  · split_ifs
    · exact .inr (.inl rfl)
    · exact .inr (.inr (.inl rfl))
  · -- to the minute or not, it is part of the text of a time of day
    apply Or.inl
    apply isClockCharacter_of_mem_isoText (zoneTime offset h)
    split at hc
    · exact List.mem_append_left _ (List.mem_append_left _ hc)
    · exact hc

private theorem isStampCharacter_of_mem_textWith {s : Stamp} (h : s.IsZoned) :
    ∀ c ∈ s.textWith 'T', IsStampCharacter c := by
  obtain ⟨⟨d, t⟩, offset⟩ := s
  intro c hc
  simp only [Stamp.textWith, Moment.textWith, List.mem_append, List.mem_cons] at hc
  rcases hc with (hc | rfl | hc) | hc
  · exact isStampCharacter_of_mem_dateText d c hc
  · exact .inr (.inr (.inr rfl))
  · exact .inl (isClockCharacter_of_mem_isoText t c hc)
  · cases offset with
    | none => cases hc
    | some offset => exact isStampCharacter_of_mem_offsetText (h offset rfl) c hc

private theorem trim_of_stampCharacters {cs : List Char} (h : ∀ c ∈ cs, IsStampCharacter c) :
    Text.trim cs = cs := by
  apply Text.trim_eq_self
  · intro c hc
    exact (h c (List.mem_of_mem_head? hc)).not_isBlank
  · intro c hc
    exact (h c (List.mem_of_mem_getLast? hc)).not_isBlank

theorem trim_isoText (m : Moment) : Text.trim m.isoText = m.isoText := by
  have hcharacters := isStampCharacter_of_mem_textWith (Stamp.isZoned_of_none m)
  rw [Stamp.textWith_of_none] at hcharacters
  exact trim_of_stampCharacters hcharacters

private theorem colon_mem_textWith (s : Stamp) (separator : Char) : ':' ∈ s.textWith separator := by
  simp [Stamp.textWith, Moment.textWith, TimeOfDay.isoText, TimeOfDay.minuteText]

theorem colon_mem_isoText (m : Moment) : ':' ∈ m.isoText := by
  have hcolon := colon_mem_textWith ⟨m, none⟩ 'T'
  rwa [Stamp.textWith_of_none] at hcolon

end Iso

namespace Written

variable {clock : Clock}

theorem moment_of_stamp? {cs : List Char} {s : Stamp}
    (hstamp : Iso.stamp? (Text.trim cs) = some s) : moment cs clock = some <$> s.moment := by
  have hrelative : Relative.resolve false (Text.trim cs) clock = .ok none := by
    apply Relative.resolve_of_none
    rw [Relative.ofText?_trim]
    exact ofText?_of_stamp? hstamp false
  have hne : Text.trim cs ≠ [] := by
    intro hnil
    rw [hnil] at hstamp
    cases hstamp
  simp only [moment, List.isEmpty_iff, hne, hrelative, hstamp]
  rfl

/-- A text that is read as a stamp writes its moment alone, or its day when it has no colon. -/
theorem span_of_stamp? {cs : List Char} {s : Stamp} (hstamp : Iso.stamp? (Text.trim cs) = some s) :
    span cs clock = do
      let m ← s.moment
      return some (if cs.contains ':' then Span.ofMoment m else Span.ofDay m.date) := by
  have hrelative : Relative.resolve true cs clock = .ok none :=
    Relative.resolve_of_none (ofText?_of_stamp? hstamp true)
  simp only [span, hrelative, moment_of_stamp? hstamp, Outcome.ok_bind]
  cases s.moment with
  | error e => rfl
  | ok m => rfl

/-- The text of a stamp writes the moment at which it is read back. -/
theorem span_stampText {s : Stamp} (h : s.IsZoned) :
    span (s.textWith 'T') clock = do return some (Span.ofMoment (← s.readBack.moment)) := by
  have htrim := Iso.trim_of_stampCharacters (Iso.isStampCharacter_of_mem_textWith h)
  rw [span_of_stamp? (by rw [htrim, Iso.stamp?_textWith h 'T']),
    List.contains_iff_mem.2 (Iso.colon_mem_textWith s 'T')]
  rfl

theorem span_isoText (m : Moment) (clock : Clock) :
    span m.isoText clock = .ok (some (Span.ofMoment m)) := by
  rw [Moment.isoText, ← Stamp.textWith_of_none, span_stampText (Stamp.isZoned_of_none m)]
  rfl

theorem span_dateText (d : Date) : span d.isoText clock = .ok (some (Span.ofDay d)) := by
  have hcolon : ':' ∉ d.isoText := by
    intro hmem
    rcases Iso.isDigit_or_hyphen_of_mem_dateText d _ hmem with ⟨n, hn, heq⟩ | heq
    · exact Iso.digit_ne_colon hn heq.symm
    · exact absurd heq (by decide)
  have htrim := Iso.trim_of_stampCharacters (Iso.isStampCharacter_of_mem_dateText d)
  rw [span_of_stamp? (by rw [htrim, Iso.stamp?_dateText])]
  simp [Stamp.moment, Moment.startOf, hcolon]

end Written

end Cuaderno
