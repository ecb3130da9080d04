import Cuaderno.Number.Basic
import Cuaderno.Proofs.Sorting.Stable
import Mathlib.Algebra.Ring.Nat

/-!
# Exact sums of counts

A count below `2^53` fits into a mantissa, so the nearest number is the count itself and the sum of
two counts is their count (`add_ofNat`), as long as that fits too, and counts keep their order
(`lt_ofNat`). Beyond it a sum is rounded, but it stays a number that is not negative
(`NotNegative.add`).
-/

namespace Cuaderno.Number

private theorem roundDiv_mul (q : Nat) {den : Nat} (h : 0 < den) : roundDiv (q * den) den = q := by
  have hq : q * den / den = q := Nat.mul_div_cancel q h
  have hr : q * den % den = 0 := Nat.mul_mod_left q den
  simp only [roundDiv, hq, hr]
  rw [if_pos (by omega)]

/-- The rank of a magnitude with 53 digits and some places behind them. -/
theorem nearestRank_digits {digits : Nat} (places : Nat) (hl : 2 ^ 52 ≤ digits)
    (hu : digits < 2 ^ 53) :
    nearestRank (digits * 2 ^ places) 1 = places * 2 ^ 52 + digits := by
  have hp : 0 < 2 ^ places := Nat.two_pow_pos places
  have hlog : Nat.log2 (digits * 2 ^ places) = 52 + places := by
    rw [Nat.log2_eq_iff (Nat.ne_of_gt (Nat.mul_pos (by omega) hp))]
    constructor
    · rw [Nat.pow_add]
      exact Nat.mul_le_mul_right _ hl
    · rw [show 52 + places + 1 = 53 + places by omega, Nat.pow_add]
      exact Nat.mul_lt_mul_of_pos_right hu hp
  have hs : 52 + places - 52 = places := by omega
  simp only [nearestRank, Nat.div_one, hlog, hs, Nat.one_mul, Nat.pow_eq]
  rw [roundDiv_mul digits hp]

private theorem units_digits {digits : Nat} (places : Nat) (hl : 2 ^ 52 ≤ digits)
    (hu : digits < 2 ^ 53) :
    units (places * 2 ^ 52 + digits) = digits * 2 ^ places := by
  have hm : mantissa (places * 2 ^ 52 + digits) = digits := by
    simp only [mantissa, Nat.pow_eq]
    rw [if_neg (by omega)]
    omega
  have hs : scale (places * 2 ^ 52 + digits) = places := by
    simp only [scale, Nat.pow_eq]
    omega
  rw [units, hm, hs, Nat.pow_eq]

private theorem unit_eq : unit = 2 ^ 1074 := by
  delta unit
  generalize 1074 = k
  exact Nat.pow_eq

/-- A count that fits into a mantissa has 53 digits and less than `1075` places behind them. -/
theorem exists_digits {n : Nat} (h0 : n ≠ 0) (h : n < 2 ^ 53) :
    ∃ digits places, 2 ^ 52 ≤ digits ∧ digits < 2 ^ 53 ∧ places < 1075 ∧
      n * unit = digits * 2 ^ places := by
  have hlog : Nat.log2 n < 53 := (Nat.log2_lt h0).2 h
  have hsplit : 52 - Nat.log2 n + (1022 + Nat.log2 n) = 1074 := by omega
  refine ⟨n * 2 ^ (52 - Nat.log2 n), 1022 + Nat.log2 n, ?_, ?_, by omega, ?_⟩
  · calc 2 ^ 52 = 2 ^ Nat.log2 n * 2 ^ (52 - Nat.log2 n) := by
          rw [← Nat.pow_add, show Nat.log2 n + (52 - Nat.log2 n) = 52 by omega]
      _ ≤ n * 2 ^ (52 - Nat.log2 n) := Nat.mul_le_mul_right _ (Nat.log2_self_le h0)
  · calc n * 2 ^ (52 - Nat.log2 n)
        < 2 ^ (Nat.log2 n + 1) * 2 ^ (52 - Nat.log2 n) :=
          Nat.mul_lt_mul_of_pos_right Nat.lt_log2_self (Nat.two_pow_pos _)
      _ = 2 ^ 53 := by rw [← Nat.pow_add, show Nat.log2 n + 1 + (52 - Nat.log2 n) = 53 by omega]
  · rw [Nat.mul_assoc, ← Nat.pow_add, hsplit, unit_eq]

private theorem nearestRank_zero : nearestRank (0 * unit) 1 = 0 := by
  rw [Nat.zero_mul]
  decide

private theorem nearestRank_lt_infinityRank {n : Nat} (h : n < 2 ^ 53) :
    nearestRank (n * unit) 1 < infinityRank := by
  by_cases h0 : n = 0
  · rw [h0, nearestRank_zero]
    decide
  · obtain ⟨digits, places, hl, hu, hp, heq⟩ := exists_digits h0 h
    rw [heq, nearestRank_digits places hl hu, infinityRank, Nat.pow_eq]
    omega

theorem ofNat_zero : ofNat 0 = zero := by
  rw [ofNat, ofUnits, nearestRank_zero, zero]

private theorem signedUnits?_ofNat {n : Nat} (h : n < 2 ^ 53) :
    (ofNat n).signedUnits? = some ((n * unit : Nat) : Int) := by
  have hb := nearestRank_lt_infinityRank h
  have hu : units (nearestRank (n * unit) 1) = n * unit := by
    by_cases h0 : n = 0
    · rw [h0, nearestRank_zero, Nat.zero_mul]
      decide
    · obtain ⟨digits, places, hl, hu, -, heq⟩ := exists_digits h0 h
      rw [heq, nearestRank_digits places hl hu, units_digits places hl hu]
  simp only [ofNat, ofUnits, ofRank, signedUnits?, Nat.min_eq_left (Nat.le_of_lt hb)]
  rw [if_pos hb, hu, if_neg Bool.false_ne_true]

/-- Counts that fit into a mantissa keep their order. -/
theorem nearestRank_lt {a b : Nat} (hab : a < b) (hb : b < 2 ^ 53) :
    nearestRank (a * unit) 1 < nearestRank (b * unit) 1 := by
  obtain ⟨m, s, hml, hmu, -, hbeq⟩ := exists_digits (n := b) (by omega) hb
  rw [hbeq, nearestRank_digits s hml hmu]
  by_cases h0 : a = 0
  · rw [h0, nearestRank_zero]
    omega
  · obtain ⟨k, r, hkl, hku, -, haeq⟩ := exists_digits h0 (Nat.lt_trans hab hb)
    rw [haeq, nearestRank_digits r hkl hku]
    have hu : 0 < unit := by
      delta unit
      generalize 1074 = k
      exact Nat.two_pow_pos k
    have hlt : k * 2 ^ r < m * 2 ^ s := by
      rw [← haeq, ← hbeq]
      exact Nat.mul_lt_mul_of_pos_right hab hu
    rcases Nat.lt_trichotomy r s with hrs | hrs | hrs
    · omega
    · subst hrs
      have := Nat.lt_of_mul_lt_mul_right hlt
      omega
    · -- more places mean a greater magnitude, whatever the digits
      have hle : m * 2 ^ s ≤ k * 2 ^ r := by
        calc m * 2 ^ s ≤ 2 ^ 53 * 2 ^ s := Nat.mul_le_mul_right _ (Nat.le_of_lt hmu)
          _ = 2 ^ 52 * 2 ^ (s + 1) := by
            rw [← Nat.pow_add, ← Nat.pow_add, show 53 + s = 52 + (s + 1) by omega]
          _ ≤ 2 ^ 52 * 2 ^ r := Nat.mul_le_mul_left _ (Nat.pow_le_pow_right (by decide) hrs)
          _ ≤ k * 2 ^ r := Nat.mul_le_mul_right _ hkl
      omega

theorem lt_ofNat {a b : Nat} (ha : a < 2 ^ 53) (hb : b < 2 ^ 53) :
    (ofNat a).lt (ofNat b) = true ↔ a < b := by
  have hra := nearestRank_lt_infinityRank ha
  have hrb := nearestRank_lt_infinityRank hb
  simp only [ofNat, ofUnits, ofRank, lt, position?, Nat.min_eq_left (Nat.le_of_lt hra),
    Nat.min_eq_left (Nat.le_of_lt hrb), Bool.false_eq_true, if_false, decide_eq_true_eq,
    Int.ofNat_lt]
  rcases Nat.lt_trichotomy a b with hab | hab | hab
  · exact iff_of_true (nearestRank_lt hab hb) hab
  · subst hab
    exact iff_of_false (Nat.lt_irrefl _) (Nat.lt_irrefl _)
  · exact iff_of_false (Nat.lt_asymm (nearestRank_lt hab ha)) (Nat.lt_asymm hab)

theorem not_lt_ofNat {a b : Nat} (hb : b < 2 ^ 53) (h : a ≤ b) :
    (ofNat b).lt (ofNat a) = false := by
  rw [← Bool.not_eq_true, lt_ofNat hb (by omega)]
  omega

/-- The sum of two numbers that are not negative, from their units. -/
theorem add_of_units {x y : Number} {m n : Nat} (hx : x.signedUnits? = some (m : Int))
    (hy : y.signedUnits? = some (n : Int)) (hn : x.isNegative = false) :
    x.add y = ofUnits false (m + n) 1 := by
  simp only [add, hx, hy, hn, Bool.false_and]
  split
  · have hz : m + n = 0 := by omega
    have hr : nearestRank 0 1 = 0 := by decide
    rw [hz, ofUnits, hr]
  · rw [decide_eq_false (by omega), show ((m : Int) + n).natAbs = m + n by omega]

/-- The sum of two counts is their count, if that fits into a mantissa. -/
theorem add_ofNat {a b : Nat} (h : a + b < 2 ^ 53) : (ofNat a).add (ofNat b) = ofNat (a + b) := by
  have ha := signedUnits?_ofNat (n := a) (by omega)
  have hb := signedUnits?_ofNat (n := b) (by omega)
  rw [add_of_units ha hb rfl, ← Nat.add_mul, ofNat]

/-- Counts may be added up one after the other. -/
theorem foldl_add_ofNat {counts : List Nat} {a : Nat} (h : a + counts.sum < 2 ^ 53) :
    (counts.map ofNat).foldl add (ofNat a) = ofNat (a + counts.sum) := by
  induction counts generalizing a with
  | nil => rfl
  | cons n counts ih =>
    rw [List.sum_cons, ← Nat.add_assoc] at h ⊢
    rw [List.map_cons, List.foldl_cons, add_ofNat (by omega), ih h]

/-- A number, with no negative sign. -/
def NotNegative (x : Number) : Prop := ∃ rank h, x = real false rank h

theorem NotNegative.ne_nan {x : Number} (h : NotNegative x) : x ≠ nan := by
  obtain ⟨rank, hr, rfl⟩ := h
  intro hn
  cases hn

private theorem notNegative_ofUnits (num den : Nat) :
    NotNegative (ofUnits false num den) := ⟨_, _, rfl⟩

theorem notNegative_ofNat (n : Nat) : NotNegative (ofNat n) := notNegative_ofUnits _ _

/-- The units of a finite number that is not negative are a count; without units it is infinite. -/
theorem NotNegative.signedUnits? {x : Number} (h : NotNegative x) :
    (∃ n : Nat, x.signedUnits? = some (n : Int)) ∨
      (x.signedUnits? = none ∧ x = infinity false) := by
  obtain ⟨rank, hr, rfl⟩ := h
  by_cases hb : rank < infinityRank
  · exact .inl ⟨units rank, by simp [Number.signedUnits?, hb]⟩
  · have : rank = infinityRank := by omega
    subst this
    exact .inr ⟨by simp [Number.signedUnits?], by simp [infinity, ofRank]⟩

theorem NotNegative.add {x y : Number} (hx : NotNegative x) (hy : NotNegative y) :
    NotNegative (x.add y) := by
  have hn : x.isNegative = false := by
    obtain ⟨rank, hr, rfl⟩ := hx
    rfl
  rcases hx.signedUnits? with ⟨a, ha⟩ | ⟨ha, hxi⟩
  · rcases hy.signedUnits? with ⟨b, hb⟩ | ⟨hb, hyi⟩
    · rw [add_of_units ha hb hn]
      exact notNegative_ofUnits _ _
    · simpa only [Number.add, ha, hb] using hy
  · rcases hy.signedUnits? with ⟨b, hb⟩ | ⟨hb, hyi⟩
    · simpa only [Number.add, ha, hb] using hx
    · simp only [Number.add, ha, hb]
      rw [if_pos (by rw [hxi, hyi])]
      exact hx

theorem notNegative_zero : NotNegative zero := ⟨_, _, rfl⟩

/-- Numbers that are not negative are equal when neither is less: there is one zero among them. -/
theorem NotNegative.eq_of_not_lt {x y : Number} (hx : NotNegative x) (hy : NotNegative y)
    (hxy : x.lt y = false) (hyx : y.lt x = false) : x = y := by
  obtain ⟨r, hr, rfl⟩ := hx
  obtain ⟨s, hs, rfl⟩ := hy
  simp only [lt, position?, Bool.false_eq_true, if_false, decide_eq_false_iff_not] at hxy hyx
  have hrs : r = s := by omega
  subst hrs
  rfl

theorem orders_ne_nan : Sorting.Orders (fun x y => !y.lt x) (· ≠ nan) where
  trans := by
    intro x y z hx hy hz hxy hyz
    cases x with
    | nan => exact absurd rfl hx
    | real _ r _ =>
      cases y with
      | nan => exact absurd rfl hy
      | real _ s _ =>
        cases z with
        | nan => exact absurd rfl hz
        | real _ t _ =>
          simp only [lt, position?, Bool.not_eq_true', decide_eq_false_iff_not] at hxy hyz ⊢
          omega
  total := by
    intro x y hx hy
    cases x with
    | nan => exact absurd rfl hx
    | real _ r _ =>
      cases y with
      | nan => exact absurd rfl hy
      | real _ s _ =>
        simp only [lt, position?, Bool.or_eq_true, Bool.not_eq_true', decide_eq_false_iff_not]
        omega

theorem NotNegative.orders : Sorting.Orders (fun x y => !x.lt y) NotNegative :=
  orders_ne_nan.flip.mono fun _ hx => hx.ne_nan

end Cuaderno.Number
