/-!
# Blank characters, trimming and words

A *blank* is a character of white space: the controls that separate lines and records, and every
space of Unicode. Text is read as a list of characters, so each offset and each length in the
library counts characters.

The main statements say that trimming leaves no blank at either end (`head?_trim`,
`getLast?_trim`), and that it changes nothing when there is none (`trim_eq_self`). A word goes on up
to the next blank (`words_append`); the blanks in front of it are left out
(`words_cons_of_isBlank`).
-/

namespace Cuaderno.Text

/-- White space: tab to carriage return, the four information separators, and all Unicode spaces. -/
def isBlank (c : Char) : Bool :=
  let n := c.toNat
  (9 ≤ n && n ≤ 13) || (28 ≤ n && n ≤ 32) || n == 0x85 || n == 0xA0 || n == 0x1680
    || (0x2000 ≤ n && n ≤ 0x200A) || n == 0x2028 || n == 0x2029 || n == 0x202F
    || n == 0x205F || n == 0x3000

def trimStart (cs : List Char) : List Char := cs.dropWhile isBlank

def trimEnd (cs : List Char) : List Char := (cs.reverse.dropWhile isBlank).reverse

def trim (cs : List Char) : List Char := trimEnd (trimStart cs)

@[simp] theorem trimStart_nil : trimStart [] = [] := rfl

@[simp] theorem trimEnd_nil : trimEnd [] = [] := rfl

@[simp] theorem trim_nil : trim [] = [] := rfl

theorem trimStart_suffix (cs : List Char) : trimStart cs <:+ cs := List.dropWhile_suffix _

theorem trimEnd_isPrefix (cs : List Char) : trimEnd cs <+: cs := by
  have h := List.dropWhile_suffix isBlank (l := cs.reverse)
  simpa [trimEnd] using List.reverse_prefix.2 h

/-- What is left after dropping the blanks in front starts with no blank. -/
theorem head?_trimStart {cs : List Char} {c : Char} (h : (trimStart cs).head? = some c) :
    isBlank c = false := by
  induction cs with
  | nil => simp at h
  | cons d ds ih =>
    by_cases hd : isBlank d = true
    · exact ih (by simpa [trimStart, hd] using h)
    · have : d = c := by simpa [trimStart, hd] using h
      simpa [this] using hd

theorem getLast?_trimEnd {cs : List Char} {c : Char} (h : (trimEnd cs).getLast? = some c) :
    isBlank c = false :=
  @head?_trimStart cs.reverse c (by simpa [trimEnd, trimStart] using h)

theorem getLast?_trim {cs : List Char} {c : Char} (h : (trim cs).getLast? = some c) :
    isBlank c = false := getLast?_trimEnd h

theorem head?_trim {cs : List Char} {c : Char} (h : (trim cs).head? = some c) :
    isBlank c = false := by
  apply @head?_trimStart cs
  obtain ⟨t, ht⟩ := trimEnd_isPrefix (trimStart cs)
  rw [← ht]
  cases hs : trimEnd (trimStart cs) with
  | nil => simp [trim, hs] at h
  | cons a as => simpa [trim, hs] using h

theorem trimStart_eq_self {cs : List Char} (h : ∀ c, cs.head? = some c → isBlank c = false) :
    trimStart cs = cs := by
  cases cs with
  | nil => rfl
  | cons c cs => simp [trimStart, h c rfl]

theorem trimEnd_eq_self {cs : List Char} (h : ∀ c, cs.getLast? = some c → isBlank c = false) :
    trimEnd cs = cs := by
  have : trimStart cs.reverse = cs.reverse :=
    trimStart_eq_self fun c hc => h c (by simpa using hc)
  simpa [trimEnd, trimStart] using congrArg List.reverse this

theorem trim_eq_self {cs : List Char} (hs : ∀ c, cs.head? = some c → isBlank c = false)
    (he : ∀ c, cs.getLast? = some c → isBlank c = false) : trim cs = cs := by
  rw [trim, trimStart_eq_self hs, trimEnd_eq_self he]

theorem trim_trim (cs : List Char) : trim (trim cs) = trim cs :=
  trim_eq_self (fun _ h => head?_trim h) (fun _ h => getLast?_trim h)

/-- The maximal runs of characters that are not blank, in order. -/
def words (cs : List Char) : List (List Char) :=
  match _h : cs.dropWhile isBlank with
  | [] => []
  | c :: rest => (c :: rest.takeWhile (!isBlank ·)) :: words (rest.dropWhile (!isBlank ·))
termination_by cs.length
decreasing_by
  have h₁ := (List.dropWhile_suffix isBlank (l := cs)).length_le
  have h₂ := (List.dropWhile_suffix (!isBlank ·) (l := rest)).length_le
  simp only [_h, List.length_cons] at h₁
  omega

theorem words_of_dropWhile_nil {cs : List Char} (h : cs.dropWhile isBlank = []) :
    words cs = [] := by
  rw [words]
  split
  · rfl
  · simp_all

theorem words_of_dropWhile_cons {cs rest : List Char} {c : Char}
    (h : cs.dropWhile isBlank = c :: rest) :
    words cs = (c :: rest.takeWhile (!isBlank ·)) :: words (rest.dropWhile (!isBlank ·)) := by
  rw [words]
  split
  · simp_all
  · rename_i hcs
    cases h.symm.trans hcs
    rfl

theorem words_cons_of_isBlank {c : Char} (h : isBlank c = true) (cs : List Char) :
    words (c :: cs) = words cs := by
  have hdrop : (c :: cs).dropWhile isBlank = cs.dropWhile isBlank := List.dropWhile_cons_of_pos h
  cases hcs : cs.dropWhile isBlank with
  | nil => rw [words_of_dropWhile_nil hcs, words_of_dropWhile_nil (hdrop.trans hcs)]
  | cons d rest => rw [words_of_dropWhile_cons hcs, words_of_dropWhile_cons (hdrop.trans hcs)]

theorem words_append {word rest : List Char} (hne : word ≠ [])
    (hword : ∀ c ∈ word, isBlank c = false)
    (hrest : ∀ c, rest.head? = some c → isBlank c = true) :
    words (word ++ rest) = word :: words rest := by
  obtain ⟨c, cs, rfl⟩ := List.exists_cons_of_ne_nil hne
  rw [List.forall_mem_cons] at hword
  have hkeep : ∀ d ∈ cs, (!isBlank d) = true := by simpa using hword.2
  have hstop : rest.takeWhile (!isBlank ·) = [] ∧ rest.dropWhile (!isBlank ·) = rest := by
    cases rest with
    | nil => exact ⟨rfl, rfl⟩
    | cons d rest => simp [hrest d rfl]
  have hdrop : (c :: cs ++ rest).dropWhile isBlank = c :: (cs ++ rest) :=
    List.dropWhile_cons_of_neg (by simp [hword.1])
  rw [words_of_dropWhile_cons hdrop, List.takeWhile_append_of_pos hkeep,
    List.dropWhile_append_of_pos hkeep, hstop.1, hstop.2, List.append_nil]

def isAllBlank (cs : List Char) : Bool := cs.all isBlank

theorem trim_eq_nil_iff (cs : List Char) : trim cs = [] ↔ isAllBlank cs = true := by
  have drop (l : List Char) : l.dropWhile isBlank = [] ↔ l.all isBlank = true := by
    induction l with
    | nil => simp
    | cons c l ih => by_cases h : isBlank c = true <;> simp [h, ih]
  have stop (l : List Char) : trimEnd l = [] ↔ l.all isBlank = true := by
    rw [trimEnd, List.reverse_eq_nil_iff, drop, List.all_reverse]
  have keep (l : List Char) : (l.dropWhile isBlank).all isBlank = l.all isBlank := by
    induction l with
    | nil => rfl
    | cons c l ih => by_cases h : isBlank c = true <;> simp [h, ih]
  rw [trim, stop, trimStart, keep, isAllBlank]

end Cuaderno.Text
