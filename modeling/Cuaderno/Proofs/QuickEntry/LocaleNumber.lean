import Cuaderno.Proofs.QuickEntry.DigitGroups
import Cuaderno.Proofs.QuickEntry.ItemStart

/-!
# Numbers of two languages, read back

A number is written with a point or a comma for the decimal mark, and its whole part without groups
or in groups of three, which the other mark or spaces part (`LocaleNumber`). Whatever the marks, it
is read as its plain text is (`typedNumber?_text`). One form has two readings: a single mark behind
one to three digits, with three digits behind it, groups thousands unless the whole part is zero
(`LocaleNumber.IsThousands`).
-/

namespace Cuaderno.QuickEntry

open Cuaderno.Number (fractionText fractionText_of_ne_nil plainText plainText_nil plainValue
  signAndRest_signText signText)
open Cuaderno.Text (decimalValue? digitChar digitsOf isBlank isDecimal natText)

/-! ## Numbers as they are written -/

/-- The marks of a number. Where one is the decimal mark, the other one groups digits. -/
inductive Mark where
  | point
  | comma

def Mark.char : Mark → Char
  | point => '.'
  | comma => ','

def Mark.other : Mark → Mark
  | point => comma
  | comma => point

/-- How the digits of a whole part are grouped. -/
inductive DigitGrouping where
  | none
  | byMark
  | bySpace
  | byNoBreakSpace

/-- A number to be written: a sign or none, a whole part, and the digits behind a decimal mark; no
mark stands in front of no digits. -/
structure LocaleNumber where
  sign : Option Bool
  whole : Nat
  mark : Mark
  fraction : List Nat
  fraction_lt : ∀ d ∈ fraction, d < 10

namespace LocaleNumber

def wholeText (n : LocaleNumber) : DigitGrouping → List Char
  | .none => natText n.whole
  | .byMark => grouped n.mark.other.char n.whole
  | .bySpace => grouped ' ' n.whole
  | .byNoBreakSpace => grouped '\u00a0' n.whole

def text (n : LocaleNumber) (g : DigitGrouping) : List Char :=
  signText n.sign ++ (n.wholeText g ++ fractionText n.mark.char n.fraction)

/-- Whether the decimal mark looks as if it grouped thousands: the whole part is not zero and too
short for groups of its own, and three digits follow the mark. -/
def IsThousands (n : LocaleNumber) : Prop :=
  n.whole ≠ 0 ∧ (digitsOf n.whole).length ≤ 3 ∧ n.fraction.length = 3

instance (n : LocaleNumber) : Decidable n.IsThousands := inferInstanceAs (Decidable (_ ∧ _))

/-- The plain text of what a number is read as: its digits with a point for the decimal mark, or as
one whole number. -/
def plain (n : LocaleNumber) : List Char :=
  if n.IsThousands then plainText n.sign (digitsOf n.whole ++ n.fraction) []
  else plainText n.sign (digitsOf n.whole) n.fraction

end LocaleNumber

/-! ## The plain text of a number -/

private theorem decimalValue?_digitChar : ∀ d < 10, decimalValue? (digitChar d) = some d := by
  decide +kernel

private theorem digitsInFront_append {ds : List Nat} (hds : ∀ d ∈ ds, d < 10) (rest : List Char)
    (hrest : ∀ c ∈ rest.head?, decimalValue? c = none) :
    digitsInFront (ds.map digitChar ++ rest) = (ds, rest) := by
  induction ds with
  | nil =>
    cases rest with
    | nil => rfl
    | cons c rest => rw [List.map_nil, List.nil_append, digitsInFront, hrest c rfl]
  | cons d ds ih =>
    rw [List.forall_mem_cons] at hds
    rw [List.map_cons, List.cons_append, digitsInFront, decimalValue?_digitChar d hds.1, ih hds.2]

section Plain

variable {sign : Option Bool} {whole fraction : List Nat}

private theorem pointedNumber?_plainText (hne : whole ≠ []) (hw : ∀ d ∈ whole, d < 10)
    (hf : ∀ d ∈ fraction, d < 10) :
    pointedNumber? (plainText sign whole fraction) = some (plainValue sign whole fraction) := by
  have hpoint : decimalValue? '.' = none := by decide +kernel
  obtain ⟨d, ds, rfl⟩ := List.exists_cons_of_ne_nil hne
  rw [pointedNumber?, Number.signAndRest_plainText hne hw]
  cases fraction with
  | nil =>
    have hwhole := digitsInFront_append hw [] (by simp)
    simp only [fractionText, hwhole]
    rfl
  | cons e es =>
    have hwhole := digitsInFront_append hw ('.' :: (e :: es).map digitChar)
      (by simp [hpoint])
    have hfraction := digitsInFront_append hf [] (by simp)
    rw [List.append_nil] at hfraction
    simp only [fractionText, hwhole, hfraction]
    rfl

private theorem withoutBreak_plainText (hw : ∀ d ∈ whole, d < 10) (hf : ∀ d ∈ fraction, d < 10) :
    withoutBreak (plainText sign whole fraction) = plainText sign whole fraction := by
  rw [withoutBreak, if_neg]
  intro hlast
  exact absurd (Number.forall_mem_plainText (p := (· != '\n')) (by decide) (by decide) hw hf _
    (List.mem_of_getLast? hlast)) (by decide)

end Plain

/-! ## Marks and what they say -/

theorem Mark.char_ne_digit (m : Mark) : ∀ d < 10, m.char ≠ digitChar d := by
  cases m <;> decide

theorem Mark.char_ne_other (m : Mark) : m.char ≠ m.other.char := by
  cases m <;> decide

theorem Mark.other_other (m : Mark) : m.other.other = m := by
  cases m <;> rfl

theorem Mark.not_mem_signText (m : Mark) (sign : Option Bool) : m.char ∉ signText sign := by
  intro hmem
  rcases Number.mem_signText hmem with h | h <;> cases m <;> cases h

private theorem isBlank_of_mark (m : Mark) : isBlank m.char = false := by
  cases m <;> decide

section Pointed

variable {before after cs : List Char} {m : Mark}

def withPoints (cs : List Char) : List Char := cs.map fun c => if c = ',' then '.' else c

private theorem withPoints_eq_self (h : ',' ∉ cs) : withPoints cs = cs := by
  conv_rhs => rw [← List.map_id cs]
  apply List.map_congr_left
  intro c hc
  have hne : c ≠ ',' := by
    rintro rfl
    exact h hc
  rw [if_neg hne, id]

private theorem withPoints_append (hb : ',' ∉ before) (ha : ',' ∉ after) :
    withPoints (before ++ m.char :: after) = before ++ '.' :: after := by
  have hmark : (if m.char = ',' then '.' else m.char) = '.' := by
    cases m <;> rfl
  rw [withPoints, List.map_append, List.map_cons, hmark, ← withPoints, ← withPoints,
    withPoints_eq_self hb, withPoints_eq_self ha]

/-- Where only one of the marks occurs, it is the decimal mark if it occurs once and does not group
thousands. Otherwise it is dropped. -/
theorem pointedForm_of_other_not_mem (h : m.other.char ∉ cs) :
    pointedForm cs = if isGroupOfThousands cs ∨ cs.count m.char ≠ 1 then without m.char cs
      else withPoints cs := by
  cases m with
  | point =>
    have hcomma : ',' ∉ cs := h
    have hcommas : cs.count ',' = 0 := List.count_eq_zero.2 h
    by_cases hgroup : isGroupOfThousands cs = true
    · simp [pointedForm, hcommas, hgroup, Mark.char, without_eq_self hcomma]
    · rcases Nat.lt_trichotomy (cs.count '.') 1 with hfew | hone | hmany
      · have hnone : cs.count '.' = 0 := by omega
        simp [pointedForm, hcommas, hgroup, Mark.char, hnone,
          without_eq_self (List.count_eq_zero.1 hnone)]
      · simp [pointedForm, hcommas, hgroup, Mark.char, hone, withPoints_eq_self hcomma]
      · simp [pointedForm, hcommas, hgroup, Mark.char, hmany, Nat.ne_of_gt hmany]
  | comma =>
    have hpoint : '.' ∉ cs := h
    have hpoints : cs.count '.' = 0 := List.count_eq_zero.2 h
    by_cases hgroup : isGroupOfThousands cs = true
    · have hdrop : '.' ∉ without ',' cs := fun hmem => hpoint (List.mem_filter.1 hmem).1
      simp [pointedForm, hpoints, hgroup, Mark.char, without_eq_self hdrop]
    · rcases Nat.lt_trichotomy (cs.count ',') 1 with hfew | hone | hmany
      · have hnone : cs.count ',' = 0 := by omega
        simp [pointedForm, hpoints, hgroup, Mark.char, hnone,
          without_eq_self (List.count_eq_zero.1 hnone)]
      · simp [pointedForm, hpoints, hgroup, Mark.char, hone, withPoints]
      · simp [pointedForm, hpoints, hgroup, Mark.char, hmany, Nat.ne_of_gt hmany]

/-- Where both marks occur, the last one is the decimal mark, and the other one is dropped. -/
theorem pointedForm_of_lastIndexOf? {i j : Nat} (hown : m.char ∈ cs) (hother : m.other.char ∈ cs)
    (hj : Text.lastIndexOf? m.char cs = some j) (hi : Text.lastIndexOf? m.other.char cs = some i)
    (hij : i < j) :
    pointedForm cs = withPoints (without m.other.char cs) := by
  have hcount := List.count_pos_iff.2 hown
  have hcount' := List.count_pos_iff.2 hother
  cases m with
  | point =>
    simp only [Mark.char, Mark.other] at *
    have hdrop : ',' ∉ without ',' cs := fun hmem => absurd (List.mem_filter.1 hmem).2 (by simp)
    simp only [pointedForm, hcount, hcount', hi, hj, decide_true, Bool.and_self, if_true,
      Option.getD_some, withPoints_eq_self hdrop]
    rw [if_neg (by omega)]
  | comma =>
    simp only [Mark.char, Mark.other] at *
    simp only [pointedForm, hcount, hcount', hi, hj, decide_true, Bool.and_self, if_true,
      Option.getD_some, hij]
    rfl

/-- A single mark is the decimal mark, unless it groups thousands. -/
theorem pointedForm_of_single (hb : ∀ m : Mark, m.char ∉ before)
    (ha : ∀ m : Mark, m.char ∉ after) :
    pointedForm (before ++ m.char :: after) =
      if isGroupOfThousands (before ++ m.char :: after) then before ++ after
      else before ++ '.' :: after := by
  have hother : m.other.char ∉ before ++ m.char :: after := by
    simp [hb, ha, m.char_ne_other.symm]
  have hcount : (before ++ m.char :: after).count m.char = 1 := by
    rw [List.count_append, List.count_cons_self, List.count_eq_zero.2 (hb m),
      List.count_eq_zero.2 (ha m)]
  have hdrop : without m.char (before ++ m.char :: after) = before ++ after := by
    rw [without_append, without_cons_self, without_eq_self (hb m), without_eq_self (ha m)]
  rw [pointedForm_of_other_not_mem hother, hdrop, withPoints_append (hb .comma) (ha .comma)]
  simp only [hcount, ne_eq, not_true_eq_false, or_false]

private theorem pointedForm_of_unmarked (h : ∀ m : Mark, m.char ∉ cs) : pointedForm cs = cs := by
  have hnone : cs.count Mark.comma.char = 0 := List.count_eq_zero.2 (h .comma)
  rw [pointedForm_of_other_not_mem (m := .comma) (h .point), if_pos (.inr (by omega)),
    without_eq_self (h .comma)]

private theorem pointedForm_of_both (hother : m.other.char ∈ before) (hown : m.char ∉ before)
    (ha : ∀ m : Mark, m.char ∉ after) :
    pointedForm (before ++ m.char :: after) = without m.other.char before ++ '.' :: after := by
  have hbehind : m.other.char ∉ m.char :: after := by
    rw [List.mem_cons, not_or]
    exact ⟨m.char_ne_other.symm, ha m.other⟩
  have hlast : Text.lastIndexOf? m.char (before ++ m.char :: after) = some before.length := by
    rw [List.append_cons, Text.lastIndexOf?_append_of_not_mem (ha m),
      Text.lastIndexOf?_concat_self]
  have hfirst := Text.lastIndexOf?_append_of_not_mem hbehind before
  have hcomma : ',' ∉ without m.other.char before := by
    intro hmem
    obtain ⟨hbefore, hne⟩ := List.mem_filter.1 hmem
    cases m with
    | point => exact absurd hne (by decide)
    | comma => exact hown hbefore
  cases hplace : Text.lastIndexOf? m.other.char before with
  | none => exact absurd hother (Text.lastIndexOf?_eq_none hplace)
  | some i =>
    have hi := (Text.lastIndexOf?_eq_some hplace).1
    rw [pointedForm_of_lastIndexOf? (by simp) (by simp [hother]) hlast (hfirst.trans hplace) hi,
      without_append, without_eq_self hbehind, withPoints_append hcomma (ha .comma)]

end Pointed

/-! ## Which marks group thousands -/

private theorem isDecimal_of_mem_digits {ds : List Nat} (hds : ∀ d ∈ ds, d < 10) :
    ∀ c ∈ ds.map digitChar, isDecimal c = true := by
  intro c hc
  obtain ⟨d, hd, rfl⟩ := Text.exists_digit_of_mem hds hc
  rw [isDecimal, decimalValue?_digitChar d hd, Option.isSome_some]

/-- A mark groups thousands behind a whole part that is not zero and has at most three digits, in
front of three digits. -/
theorem isGroupOfThousands_iff (sign : Option Bool) (n : Nat) (m : Mark) {fraction : List Nat}
    (hf : ∀ d ∈ fraction, d < 10) :
    isGroupOfThousands (signText sign ++ (natText n ++ m.char :: fraction.map digitChar)) = true
      ↔ n ≠ 0 ∧ (digitsOf n).length ≤ 3 ∧ fraction.length = 3 := by
  have hmark : isDecimal m.char = false := by
    cases m <;> decide +kernel
  have hpair : (m.char == '.' || m.char == ',') = true := by
    cases m <;> rfl
  have hlead : ∀ d < 10, ('1' ≤ digitChar d && digitChar d ≤ '9') = decide (d ≠ 0) := by decide
  have hwhole : ∀ c ∈ natText n, isDecimal c = true :=
    isDecimal_of_mem_digits fun _ hd => Text.lt_of_mem_digitsOf hd
  have hall : (fraction.map digitChar).all isDecimal = true :=
    List.all_eq_true.2 (isDecimal_of_mem_digits hf)
  have hbefore : (natText n ++ m.char :: fraction.map digitChar).takeWhile isDecimal
      = natText n := by
    rw [List.takeWhile_append_of_pos hwhole, List.takeWhile_cons_of_neg (by simp [hmark]),
      List.append_nil]
  have hafter : (natText n ++ m.char :: fraction.map digitChar).dropWhile isDecimal
      = m.char :: fraction.map digitChar := by
    rw [List.dropWhile_append_of_pos hwhole, List.dropWhile_cons_of_neg (by simp [hmark])]
  -- the first digit says whether the whole part is zero
  obtain ⟨d, ds, hds, hzero⟩ := Text.exists_digitsOf_cons n
  have hd : d < 10 := Text.lt_of_mem_digitsOf (n := n) (by rw [hds]; exact List.mem_cons_self)
  have hbody : natText n ++ m.char :: fraction.map digitChar
      = digitChar d :: (ds.map digitChar ++ m.char :: fraction.map digitChar) := by
    rw [natText, hds, List.map_cons, List.cons_append]
  have hlength : (natText n).length = (digitsOf n).length := List.length_map ..
  rw [hbody] at hbefore hafter ⊢
  simp only [isGroupOfThousands, signAndRest_signText hd, hbefore, hafter, hlead d hd, hlength,
    hpair, hall, List.length_map, Bool.and_true, hzero, ne_eq, Bool.and_eq_true, decide_eq_true_eq,
    beq_iff_eq, and_assoc]

/-! ## The number that is read -/

namespace LocaleNumber

variable {n : LocaleNumber}

private theorem mark_not_mem_signed (n : LocaleNumber) (m : Mark) :
    m.char ∉ signText n.sign ++ natText n.whole := by
  rw [List.mem_append, not_or]
  exact ⟨m.not_mem_signText n.sign, not_mem_natText n.whole m.char_ne_digit⟩

private theorem mark_not_mem_fraction (n : LocaleNumber) (m : Mark) :
    m.char ∉ n.fraction.map digitChar := not_mem_digits n.fraction_lt m.char_ne_digit

private theorem not_isThousands_of_nil (h : n.fraction = []) : ¬ n.IsThousands := by
  rintro ⟨-, -, hlength⟩
  rw [h] at hlength
  cases hlength

private theorem not_isThousands_of_le (h : 1000 ≤ n.whole) : ¬ n.IsThousands := by
  have := Text.length_digitsOf_le 2 n.whole
  rintro ⟨-, hlength, -⟩
  omega

private theorem pointedForm_text_none (n : LocaleNumber) :
    pointedForm (n.text .none) = n.plain := by
  by_cases hnil : n.fraction = []
  · rw [text, wholeText, plain, if_neg (not_isThousands_of_nil hnil), hnil, fractionText,
      List.append_nil, plainText_nil]
    exact pointedForm_of_unmarked n.mark_not_mem_signed
  · have hgroup : _ ↔ n.IsThousands :=
      isGroupOfThousands_iff n.sign n.whole n.mark n.fraction_lt
    rw [← List.append_assoc] at hgroup
    rw [text, wholeText, fractionText_of_ne_nil hnil, ← List.append_assoc,
      pointedForm_of_single n.mark_not_mem_signed n.mark_not_mem_fraction]
    by_cases h : n.IsThousands
    · rw [plain, if_pos h, if_pos (hgroup.2 h), plainText_nil, List.map_append, List.append_assoc,
        natText]
    · rw [plain, if_neg h, if_neg (mt hgroup.1 h), plainText, fractionText_of_ne_nil hnil,
        List.append_assoc, natText]

/-- The sign and the whole part in groups that the other mark parts. -/
def signedGroups (n : LocaleNumber) : List Char :=
  signText n.sign ++ grouped n.mark.other.char n.whole

private theorem without_signedGroups (n : LocaleNumber) :
    without n.mark.other.char n.signedGroups = signText n.sign ++ natText n.whole := by
  rw [signedGroups, without_append, without_grouped n.mark.other.char_ne_digit,
    without_eq_self (n.mark.other.not_mem_signText n.sign)]

private theorem mark_not_mem_signedGroups (n : LocaleNumber) : n.mark.char ∉ n.signedGroups := by
  rw [signedGroups, List.mem_append, not_or]
  exact ⟨n.mark.not_mem_signText n.sign, not_mem_grouped n.mark.char_ne_digit n.mark.char_ne_other⟩

private theorem other_mem_signedGroups (h : 1000 ≤ n.whole) : n.mark.other.char ∈ n.signedGroups :=
  List.mem_append_right _ ((mem_grouped_iff n.mark.other.char_ne_digit).2 h)

/-- Two groups are parted by one mark with three digits behind it, and more groups by several
marks. -/
theorem isGroupOfThousands_or_count_ne (h : 1000 ≤ n.whole) :
    isGroupOfThousands n.signedGroups ∨ n.signedGroups.count n.mark.other.char ≠ 1 := by
  by_cases htwo : n.whole < 10 ^ 6
  · left
    have hfront := Text.length_digitsOf_le 2 (n.whole / 1000)
    have hlength := Text.length_paddedText 2 (n.whole % 1000) (by omega)
    obtain ⟨ds, hds, hlt⟩ := exists_digits_paddedText 3 (n.whole % 1000)
    rw [hds, List.length_map] at hlength
    rw [signedGroups, grouped_of_le h, grouped_of_lt (by omega), hds,
      isGroupOfThousands_iff n.sign _ n.mark.other hlt]
    exact ⟨by omega, by omega, hlength⟩
  · right
    have hmany := one_lt_count_grouped n.mark.other.char_ne_digit (Nat.le_of_not_lt htwo)
    rw [signedGroups, List.count_append]
    omega

private theorem pointedForm_text_byMark (n : LocaleNumber) :
    pointedForm (n.text .byMark) = n.plain := by
  by_cases hsmall : n.whole < 1000
  · have hsame : n.text .byMark = n.text .none := by
      rw [text, text, wholeText, wholeText, grouped_of_lt hsmall]
    rw [hsame, pointedForm_text_none]
  · have hlarge : 1000 ≤ n.whole := by omega
    rw [plain, if_neg (not_isThousands_of_le hlarge), text, wholeText, ← List.append_assoc,
      ← signedGroups]
    by_cases hnil : n.fraction = []
    · have hown : n.mark.other.other.char ∉ n.signedGroups := by
        rw [Mark.other_other]
        exact n.mark_not_mem_signedGroups
      rw [hnil, fractionText, List.append_nil, pointedForm_of_other_not_mem hown,
        if_pos (isGroupOfThousands_or_count_ne hlarge), without_signedGroups, plainText_nil,
        natText]
    · rw [fractionText_of_ne_nil hnil,
        pointedForm_of_both (other_mem_signedGroups hlarge) n.mark_not_mem_signedGroups
          n.mark_not_mem_fraction,
        without_signedGroups, plainText, fractionText_of_ne_nil hnil, List.append_assoc, natText]

private theorem isBlank_of_mem_fractionText (n : LocaleNumber) :
    ∀ c ∈ fractionText n.mark.char n.fraction, isBlank c = false := by
  intro c h
  rcases Number.mem_fractionText n.fraction_lt h with rfl | h
  · exact isBlank_of_mark n.mark
  · exact isBlank_of_digit h

private theorem isSpace_of_mem_wholeText {g : DigitGrouping} {c : Char}
    (h : c ∈ n.wholeText g) (hblank : isBlank c = true) : IsSpace c := by
  cases g with
  | none => exact absurd hblank (by simp [isBlank_of_mem_natText c h])
  | byMark => exact absurd hblank (by simp [isBlank_of_mem_grouped (isBlank_of_mark _) c h])
  | bySpace => exact .inl (eq_of_mem_grouped h hblank)
  | byNoBreakSpace => exact .inr (eq_of_mem_grouped h hblank)

private theorem isSpace_of_mem_text {g : DigitGrouping} {c : Char} (h : c ∈ n.text g)
    (hblank : isBlank c = true) : IsSpace c := by
  rcases List.mem_append.1 h with h | h
  · exact absurd hblank (by simp [isBlank_of_mem_signText c h])
  · rcases List.mem_append.1 h with h | h
    · exact isSpace_of_mem_wholeText h hblank
    · exact absurd hblank (by simp [n.isBlank_of_mem_fractionText c h])

/-- Without spaces the whole part has no groups, or groups that the other mark parts. -/
theorem withoutSpaces_wholeText (n : LocaleNumber) (g : DigitGrouping) :
    withoutSpaces (n.wholeText g) = n.wholeText .none ∨
      withoutSpaces (n.wholeText g) = n.wholeText .byMark := by
  cases g with
  | none => exact .inl (withoutSpaces_eq_self isBlank_of_mem_natText)
  | byMark => exact .inr (withoutSpaces_eq_self (isBlank_of_mem_grouped (isBlank_of_mark _)))
  | bySpace =>
    left
    have hnoBreak : '\u00a0' ∉ natText n.whole := not_mem_natText n.whole (by decide)
    simp only [withoutSpaces, wholeText]
    rw [without_grouped (by decide), without_eq_self hnoBreak]
  | byNoBreakSpace =>
    left
    have hspace : ' ' ∉ grouped '\u00a0' n.whole := not_mem_grouped (by decide) (by decide)
    simp only [withoutSpaces, wholeText]
    rw [without_eq_self hspace, without_grouped (by decide)]

private theorem pointedForm_withoutSpaces_text (n : LocaleNumber) (g : DigitGrouping) :
    pointedForm (withoutSpaces (n.text g)) = n.plain := by
  have htext : withoutSpaces (n.text g)
      = signText n.sign
          ++ (withoutSpaces (n.wholeText g) ++ fractionText n.mark.char n.fraction) := by
    rw [text, withoutSpaces_append, withoutSpaces_append,
      withoutSpaces_eq_self isBlank_of_mem_signText,
      withoutSpaces_eq_self n.isBlank_of_mem_fractionText]
  rcases n.withoutSpaces_wholeText g with h | h
  · rw [htext, h]
    exact n.pointedForm_text_none
  · rw [htext, h]
    exact n.pointedForm_text_byMark

/-! ## What is read -/

private theorem exists_plainText (n : LocaleNumber) : ∃ whole fraction, whole ≠ [] ∧
    (∀ d ∈ whole, d < 10) ∧ (∀ d ∈ fraction, d < 10) ∧
    n.plain = plainText n.sign whole fraction := by
  obtain ⟨d, ds, hds, -⟩ := Text.exists_digitsOf_cons n.whole
  have hwhole : ∀ d ∈ digitsOf n.whole, d < 10 := fun _ hd => Text.lt_of_mem_digitsOf hd
  by_cases h : n.IsThousands
  · refine ⟨digitsOf n.whole ++ n.fraction, [], by simp [hds], ?_, by simp, if_pos h⟩
    intro e he
    rcases List.mem_append.1 he with he | he
    · exact hwhole e he
    · exact n.fraction_lt e he
  · exact ⟨digitsOf n.whole, n.fraction, by simp [hds], hwhole, n.fraction_lt, if_neg h⟩

end LocaleNumber

/-- However the digits of a number are grouped, it is read as its plain text is. -/
theorem typedNumber?_text (n : LocaleNumber) (g : DigitGrouping) :
    ∃ x, Number.read? n.plain = some x ∧ typedNumber? (String.ofList (n.text g)) = some x := by
  obtain ⟨whole, fraction, hne, hw, hf, hplain⟩ := n.exists_plainText
  refine ⟨plainValue n.sign whole fraction, ?_, ?_⟩
  · rw [hplain, Number.read?_plainText hne hw hf]
  · have hform := n.pointedForm_withoutSpaces_text g
    have hnumber : pointedNumber? (withoutBreak n.plain)
        = some (plainValue n.sign whole fraction) := by
      rw [hplain, withoutBreak_plainText hw hf, pointedNumber?_plainText hne hw hf]
    have hempty : (withoutSpaces (n.text g)).isEmpty = false := by
      rw [List.isEmpty_eq_false_iff]
      intro hnil
      rw [← hform, hnil] at hnumber
      cases hnumber
    have htrim := withoutSpaces_trim fun c hc =>
      LocaleNumber.isSpace_of_mem_text (n := n) (g := g) hc
    calc typedNumber? (String.ofList (n.text g))
      _ = if (withoutSpaces (n.text g)).isEmpty then none
          else pointedNumber? (withoutBreak (pointedForm (withoutSpaces (n.text g)))) := by
          rw [← htrim, typedNumber?, String.toList_ofList]
          rfl
      _ = some (plainValue n.sign whole fraction) := by
          rw [hempty, hform, hnumber]
          rfl

example : LocaleNumber.text ⟨some true, 1234567, .comma, [2, 5], by decide⟩ .byMark
    = "-1.234.567,25".toList := by
  decide +kernel

end Cuaderno.QuickEntry
