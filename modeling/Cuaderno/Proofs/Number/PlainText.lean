import Cuaderno.Number.Reader
import Cuaderno.Proofs.Calendar.IsoText
import Mathlib.Algebra.Order.Ring.Nat

/-!
# Numbers in plain text

A number in plain text is a sign or none, digits, and perhaps a point with digits behind it. It is
read as the value of all its digits, those behind the point counting as fractions
(`read?_plainText`). A whole number is written without superfluous zeros in front
(`exists_digitsOf_cons`), and its last digits may be split off (`natText_eq_append`).
-/

namespace Cuaderno

namespace Text

theorem lt_of_mem_digitsOf {n d : Nat} (h : d ∈ digitsOf n) : d < 10 := by
  fun_induction digitsOf n with
  | case1 n hn =>
    rw [List.mem_singleton.1 h]
    exact hn
  | case2 n hn ih =>
    rcases List.mem_append.1 h with h | h
    · exact ih h
    · rw [List.mem_singleton.1 h]
      exact Nat.mod_lt n (by decide)

theorem exists_digitsOf_cons (n : Nat) : ∃ d ds, digitsOf n = d :: ds ∧ (d = 0 ↔ n = 0) := by
  fun_induction digitsOf n with
  | case1 n hn => exact ⟨n, [], rfl, Iff.rfl⟩
  | case2 n hn ih =>
    obtain ⟨d, ds, hds, hzero⟩ := ih
    refine ⟨d, ds ++ [n % 10], by rw [hds, List.cons_append], ?_⟩
    omega

theorem length_digitsOf_le (w n : Nat) : (digitsOf n).length ≤ w + 1 ↔ n < 10 ^ (w + 1) := by
  induction w generalizing n with
  | zero =>
    obtain ⟨d, ds, hds, -⟩ := exists_digitsOf_cons (n / 10)
    rw [digitsOf]
    split
    · simpa
    · have hten : 10 ≤ n := by omega
      simpa [hds]
  | succ w ih =>
    have hpow : 10 ^ (w + 2) = 10 ^ (w + 1) * 10 := Nat.pow_succ ..
    rw [digitsOf]
    split
    · have hone : 1 ≤ 10 ^ (w + 1) := Nat.one_le_pow _ _ (by decide)
      simp only [List.length_singleton]
      omega
    · rw [List.length_append, List.length_singleton, Nat.add_le_add_iff_right, ih]
      omega

/-- The last digits of a number, zeros among them, stand behind the others. -/
theorem natText_eq_append (w : Nat) {n : Nat} (h : 10 ^ (w + 1) ≤ n) :
    natText n = natText (n / 10 ^ (w + 1)) ++ paddedText (w + 1) (n % 10 ^ (w + 1)) := by
  induction w generalizing n with
  | zero => rw [natText_of_not_lt (by omega), paddedText_one (by omega), Nat.pow_one]
  | succ w ih =>
    have hpow : 10 ^ (w + 2) = 10 * 10 ^ (w + 1) := by rw [Nat.pow_succ, Nat.mul_comm]
    have hlast : n % 10 ^ (w + 2) % 10 = n % 10 := by
      rw [hpow, Nat.mod_mul_right_mod]
    have hfront : n % 10 ^ (w + 2) / 10 = n / 10 % 10 ^ (w + 1) := by
      rw [hpow, Nat.mod_mul_right_div_self]
    rw [natText_of_not_lt (by omega), ih (n := n / 10) (by omega), paddedText_succ, hlast, hfront,
      Nat.div_div_eq_div_mul, ← hpow, List.append_assoc]

theorem exists_digit_of_mem {ds : List Nat} (hds : ∀ d ∈ ds, d < 10) {c : Char}
    (h : c ∈ ds.map digitChar) : ∃ d < 10, c = digitChar d := by
  obtain ⟨d, hd, rfl⟩ := List.mem_map.1 h
  exact ⟨d, hds d hd, rfl⟩

theorem exists_digit_of_mem_natText {n : Nat} {c : Char} (h : c ∈ natText n) :
    ∃ d < 10, c = digitChar d := exists_digit_of_mem (fun _ hd => lt_of_mem_digitsOf hd) h

end Text

namespace Number

open Cuaderno.Text

/-- A sign in front of a number, or none; true for a minus. -/
def signText : Option Bool → List Char
  | none => []
  | some false => ['+']
  | some true => ['-']

/-- A decimal mark and the digits behind it; nothing if there are none. -/
def fractionText (mark : Char) : List Nat → List Char
  | [] => []
  | d :: ds => mark :: (d :: ds).map digitChar

/-- A sign, the digits of the whole part, and those of the fraction behind a point. -/
def plainText (sign : Option Bool) (whole fraction : List Nat) : List Char :=
  signText sign ++ (whole.map digitChar ++ fractionText '.' fraction)

def plainValue (sign : Option Bool) (whole fraction : List Nat) : Number :=
  Literal.value (sign == some true) ⟨whole, fraction, 0⟩

variable {sign : Option Bool} {whole fraction : List Nat} {mark c : Char} {rest : List Char}

theorem fractionText_of_ne_nil (hne : fraction ≠ []) :
    fractionText mark fraction = mark :: fraction.map digitChar := by
  cases fraction with
  | nil => exact absurd rfl hne
  | cons d ds => rfl

theorem plainText_nil : plainText sign whole [] = signText sign ++ whole.map digitChar := by
  rw [plainText, fractionText, List.append_nil]

theorem mem_signText (h : c ∈ signText sign) : c = '+' ∨ c = '-' := by
  match sign, h with
  | some false, h => exact .inl (List.mem_singleton.1 h)
  | some true, h => exact .inr (List.mem_singleton.1 h)

theorem mem_fractionText (hf : ∀ d ∈ fraction, d < 10) (h : c ∈ fractionText mark fraction) :
    c = mark ∨ ∃ d < 10, c = digitChar d := by
  cases fraction with
  | nil => cases h
  | cons d ds =>
    rcases List.mem_cons.1 h with h | h
    · exact .inl h
    · exact .inr (exists_digit_of_mem hf h)

private theorem mem_plainText (hw : ∀ d ∈ whole, d < 10) (hf : ∀ d ∈ fraction, d < 10)
    (h : c ∈ plainText sign whole fraction) :
    (c = '+' ∨ c = '-' ∨ c = '.') ∨ ∃ d < 10, c = digitChar d := by
  rcases List.mem_append.1 h with h | h
  · rcases mem_signText h with rfl | rfl <;> simp
  · rcases List.mem_append.1 h with h | h
    · exact .inr (exists_digit_of_mem hw h)
    · rcases mem_fractionText hf h with rfl | h
      · simp
      · exact .inr h

/-- A property of the signs, the point and the ten digits is one of every plain text. -/
theorem forall_mem_plainText {p : Char → Bool} (hp : p '+' = true ∧ p '-' = true ∧ p '.' = true)
    (hdigit : ∀ d < 10, p (digitChar d) = true) (hw : ∀ d ∈ whole, d < 10)
    (hf : ∀ d ∈ fraction, d < 10) : ∀ c ∈ plainText sign whole fraction, p c = true := by
  intro c hc
  obtain ⟨hplus, hminus, hpoint⟩ := hp
  rcases mem_plainText hw hf hc with (rfl | rfl | rfl) | ⟨d, hd, rfl⟩
  · exact hplus
  · exact hminus
  · exact hpoint
  · exact hdigit d hd

private theorem signAndRest_of_ne (hplus : c ≠ '+') (hminus : c ≠ '-') (rest : List Char) :
    signAndRest (c :: rest) = (false, c :: rest) := by
  unfold signAndRest
  split
  · rename_i heq
    cases heq
    exact absurd rfl hplus
  · rename_i heq
    cases heq
    exact absurd rfl hminus
  · rfl

/-- The sign is split off in front of a text that starts with a digit. -/
theorem signAndRest_signText {d : Nat} (hd : d < 10) (rest : List Char) :
    signAndRest (signText sign ++ digitChar d :: rest)
      = (sign == some true, digitChar d :: rest) := by
  cases sign with
  | none =>
    have hsign : ∀ d < 10, digitChar d ≠ '+' ∧ digitChar d ≠ '-' := by decide
    exact signAndRest_of_ne (hsign d hd).1 (hsign d hd).2 rest
  | some negative => cases negative <;> rfl

theorem signAndRest_plainText (hne : whole ≠ []) (hw : ∀ d ∈ whole, d < 10) :
    signAndRest (plainText sign whole fraction)
      = (sign == some true, whole.map digitChar ++ fractionText '.' fraction) := by
  obtain ⟨d, ds, rfl⟩ := List.exists_cons_of_ne_nil hne
  exact signAndRest_signText (hw d List.mem_cons_self) _

private theorem digitsAndRest_append {ds : List Nat} (hds : ∀ d ∈ ds, d < 10) (rest : List Char)
    (hrest : ∀ c ∈ rest.head?, latinDigit? c = none) :
    digitsAndRest (ds.map digitChar ++ rest) = (ds, rest) := by
  induction ds with
  | nil =>
    cases rest with
    | nil => rfl
    | cons c rest => rw [List.map_nil, List.nil_append, digitsAndRest, hrest c rfl]
  | cons d ds ih =>
    rw [List.forall_mem_cons] at hds
    rw [List.map_cons, List.cons_append, digitsAndRest, latinDigit?_digitChar d hds.1, ih hds.2]

private theorem literal?_digits (hne : whole ≠ []) (hw : ∀ d ∈ whole, d < 10)
    (hf : ∀ d ∈ fraction, d < 10) :
    literal? (whole.map digitChar ++ fractionText '.' fraction) = some ⟨whole, fraction, 0⟩ := by
  have hpoint : latinDigit? '.' = none := by decide
  have hempty : whole.isEmpty = false := List.isEmpty_eq_false_iff.2 hne
  cases fraction with
  | nil =>
    rw [literal?, digitsAndRest_append hw _ (by simp [fractionText])]
    simp [fractionText, hempty, exponent?]
  | cons d ds =>
    have hfraction := digitsAndRest_append hf [] (by simp)
    rw [List.append_nil] at hfraction
    rw [literal?, digitsAndRest_append hw _ (by simp [fractionText, hpoint])]
    simp only [fractionText, hfraction, hempty, Bool.false_and, Bool.false_eq_true, if_false]
    rfl

private theorem trimLatin_eq_self {cs : List Char} (h : ∀ c ∈ cs, isLatinBlank c = false) :
    trimLatin cs = cs := by
  have hkeep {cs : List Char} (h : ∀ c ∈ cs, isLatinBlank c = false) :
      cs.dropWhile isLatinBlank = cs := by
    cases cs with
    | nil => rfl
    | cons c cs => exact List.dropWhile_cons_of_neg (by simp [h c])
  rw [trimLatin, hkeep h, hkeep (by simpa using h), List.reverse_reverse]

private theorem withoutUnderscores?_eq_self {previous : Char} {cs : List Char} (h : '_' ∉ cs) :
    withoutUnderscores? previous cs = some cs := by
  fun_induction withoutUnderscores? previous cs with
  | case1 => rfl
  | case2 => simp at h
  | case3 => simp at h
  | case4 => simp at h
  | case5 previous c rest hnot ih =>
    rw [ih (by simp_all), Option.map_some]

private theorem name_ne_of_digit (hne : whole ≠ []) (hw : ∀ d ∈ whole, d < 10) (rest : List Char)
    (name : String) (hname : ∀ d < 10, name.toList.head? ≠ some (digitChar d)) :
    String.ofList ((whole.map digitChar ++ rest).map lowerLatin) ≠ name := by
  have hlower : ∀ d < 10, lowerLatin (digitChar d) = digitChar d := by decide
  obtain ⟨d, ds, rfl⟩ := List.exists_cons_of_ne_nil hne
  have hd : d < 10 := hw d List.mem_cons_self
  rintro rfl
  apply hname d hd
  simp [hlower d hd]

/-- A plain text is read as the number that its sign and its digits write. -/
theorem read?_plainText (hne : whole ≠ []) (hw : ∀ d ∈ whole, d < 10)
    (hf : ∀ d ∈ fraction, d < 10) :
    read? (plainText sign whole fraction) = some (plainValue sign whole fraction) := by
  have hlatin : latinForm? (plainText sign whole fraction)
      = some (plainText sign whole fraction) := by
    rw [latinForm?, if_pos]
    rw [List.all_eq_true]
    exact forall_mem_plainText (by decide) (by decide) hw hf
  have htrim : trimLatin (plainText sign whole fraction) = plainText sign whole fraction := by
    apply trimLatin_eq_self
    intro c hc
    simpa using forall_mem_plainText (p := (!isLatinBlank ·)) (by decide) (by decide) hw hf c hc
  have hunder : '_' ∉ plainText sign whole fraction := by
    intro hmem
    exact absurd (forall_mem_plainText (p := (· != '_')) (by decide) (by decide) hw hf _ hmem)
      (by decide)
  have hname := name_ne_of_digit hne hw (fractionText '.' fraction)
  simp only [read?, hlatin, Option.bind_eq_bind, Option.bind_some, htrim,
    withoutUnderscores?_eq_self hunder, signAndRest_plainText hne hw, hname "inf" (by decide),
    hname "infinity" (by decide), hname "nan" (by decide), literal?_digits hne hw hf]
  rfl

end Number

end Cuaderno
