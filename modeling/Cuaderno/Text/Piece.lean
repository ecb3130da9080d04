/-!
# Pieces of a text

Finding one text inside another, cutting a text at a separator, and slices whose bounds may be
given from the end. Main statements: `indexOf?_eq_some` and `indexOf?_eq_none_iff` say that the
search finds the first occurrence exactly when there is one.
-/

namespace Cuaderno.Text

def indexOf? (term : List Char) : List Char → Option Nat
  | [] => if term.isEmpty then some 0 else none
  | c :: cs => if term.isPrefixOf (c :: cs) then some 0 else (indexOf? term cs).map (· + 1)

def occursIn (term cs : List Char) : Bool := (indexOf? term cs).isSome

theorem indexOf?_eq_some {term cs : List Char} {i : Nat} (h : indexOf? term cs = some i) :
    term <+: cs.drop i ∧ ∀ j < i, ¬ term <+: cs.drop j := by
  induction cs generalizing i with
  | nil =>
    by_cases ht : term.isEmpty = true
    · simp only [indexOf?, ht, if_true, Option.some.injEq] at h
      subst h
      simp_all
    · simp [indexOf?, ht] at h
  | cons c cs ih =>
    by_cases hp : term.isPrefixOf (c :: cs) = true
    · simp only [indexOf?, hp, if_true, Option.some.injEq] at h
      subst h
      exact ⟨by simpa using hp, by simp⟩
    · rw [indexOf?, if_neg hp, Option.map_eq_some_iff] at h
      obtain ⟨k, hk, rfl⟩ := h
      refine ⟨by simpa using (ih hk).1, fun j hj => ?_⟩
      cases j with
      | zero => simpa using hp
      | succ j => simpa using (ih hk).2 j (by omega)

theorem indexOf?_eq_none_iff {term cs : List Char} : indexOf? term cs = none ↔ ¬ term <:+: cs := by
  induction cs with
  | nil => cases term <;> simp [indexOf?]
  | cons c cs ih =>
    by_cases hp : term.isPrefixOf (c :: cs) = true
    · have : term <:+: c :: cs := List.isPrefixOf_iff_prefix.1 hp |>.isInfix
      simp [indexOf?, hp, this]
    · have : ¬ term <+: c :: cs := by simpa using hp
      simp [indexOf?, hp, ih, List.infix_cons_iff, this]

theorem occursIn_iff {term cs : List Char} : occursIn term cs = true ↔ term <:+: cs := by
  rw [occursIn, Option.isSome_iff_ne_none, ne_eq, indexOf?_eq_none_iff, Classical.not_not]

def lastIndexOf? (c : Char) (cs : List Char) : Option Nat :=
  (cs.reverse.findIdx? (· == c)).map (cs.length - 1 - ·)

/-- The pieces of a text between the separators; there is always one more piece than separators. -/
def cut (sep : Char) : List Char → List (List Char)
  | [] => [[]]
  | c :: cs =>
    if c = sep then [] :: cut sep cs
    else match cut sep cs with
      | [] => [[c]]
      | p :: ps => (c :: p) :: ps

theorem cut_ne_nil (sep : Char) (cs : List Char) : cut sep cs ≠ [] := by
  cases cs with
  | nil => simp [cut]
  | cons c cs =>
    by_cases h : c = sep
    · simp [cut, h]
    · cases hc : cut sep cs <;> simp [cut, h, hc]

theorem not_mem_of_mem_cut {sep : Char} {cs p : List Char} (h : p ∈ cut sep cs) : sep ∉ p := by
  induction cs generalizing p with
  | nil => simp_all [cut]
  | cons c cs ih =>
    by_cases hc : c = sep
    · simp only [cut, hc, if_true, List.mem_cons] at h
      rcases h with rfl | h
      · simp
      · exact ih h
    · cases hs : cut sep cs with
      | nil => exact absurd hs (cut_ne_nil sep cs)
      | cons q qs =>
        simp only [cut, hc, if_false, hs, List.mem_cons] at h
        rcases h with rfl | h
        · have := ih (p := q) (by simp [hs])
          simp [this, Ne.symm hc]
        · exact ih (by simp [hs, h])

theorem cut_of_not_mem {sep : Char} {cs : List Char} (h : sep ∉ cs) : cut sep cs = [cs] := by
  induction cs with
  | nil => rfl
  | cons c cs ih =>
    rw [List.mem_cons, not_or] at h
    rw [cut, if_neg (Ne.symm h.1), ih h.2]

/-- A text with a separator in it is cut into the part before it and the pieces of the rest. -/
theorem cut_append_cons {sep : Char} {first : List Char} (h : sep ∉ first) (rest : List Char) :
    cut sep (first ++ sep :: rest) = first :: cut sep rest := by
  induction first with
  | nil => simp [cut]
  | cons c first ih =>
    rw [List.mem_cons, not_or] at h
    rw [List.cons_append, cut, if_neg (Ne.symm h.1), ih h.2]

/-- Two texts cut one behind the other: the last piece of the first and the first piece of the
second are one piece. -/
theorem cut_append (sep : Char) (as bs : List Char) : ∃ front last more others,
    cut sep as = front ++ [last] ∧ cut sep bs = more :: others ∧
      cut sep (as ++ bs) = front ++ (last ++ more) :: others := by
  induction as with
  | nil =>
    cases hbs : cut sep bs with
    | nil => exact absurd hbs (cut_ne_nil sep bs)
    | cons more others => exact ⟨[], [], more, others, rfl, rfl, hbs⟩
  | cons c as ih =>
    obtain ⟨front, last, more, others, has, hbs, happend⟩ := ih
    by_cases hc : c = sep
    · refine ⟨[] :: front, last, more, others, ?_, hbs, ?_⟩
      · rw [cut, if_pos hc, has, List.cons_append]
      · rw [List.cons_append, cut, if_pos hc, happend, List.cons_append]
    · cases front with
      | nil =>
        refine ⟨[], c :: last, more, others, ?_, hbs, ?_⟩
        · rw [cut, if_neg hc, has]
          rfl
        · rw [List.cons_append, cut, if_neg hc, happend]
          rfl
      | cons piece front =>
        refine ⟨(c :: piece) :: front, last, more, others, ?_, hbs, ?_⟩
        · rw [cut, if_neg hc, has]
          rfl
        · rw [List.cons_append, cut, if_neg hc, happend]
          rfl

/-- At most `n + 1` pieces: the text is cut at its first `n` separators only. -/
def cutFirst (sep : Char) : Nat → List Char → List (List Char)
  | 0, cs => [cs]
  | n + 1, cs =>
    match cs.dropWhile (· != sep) with
    | [] => [cs]
    | _ :: rest => cs.takeWhile (· != sep) :: cutFirst sep n rest

/-- A bound of a slice: a negative one counts from the end, and none leaves the text. -/
def bound (length : Nat) (i : Int) : Nat :=
  if i < 0 then (length + i).toNat else min i.toNat length

/-- The characters from offset `i` up to, not including, offset `j`. -/
def slice (cs : List Char) (i j : Int) : List Char :=
  (cs.take (bound cs.length j)).drop (bound cs.length i)

theorem slice_of_nat (cs : List Char) (i j : Nat) : slice cs i j = (cs.take j).drop i := by
  have bound_nat (k : Nat) : bound cs.length k = min k cs.length := by
    rw [bound, if_neg (by omega), Int.toNat_natCast]
  rw [slice, bound_nat, bound_nat]
  by_cases hi : i ≤ cs.length
  · rw [Nat.min_eq_left hi]
    by_cases hj : j ≤ cs.length
    · rw [Nat.min_eq_left hj]
    · rw [Nat.min_eq_right (by omega), List.take_length, List.take_of_length_le (by omega)]
  · rw [Nat.min_eq_right (by omega), List.drop_eq_nil_of_le (by rw [List.length_take]; omega),
      List.drop_eq_nil_of_le (by rw [List.length_take]; omega)]

end Cuaderno.Text
