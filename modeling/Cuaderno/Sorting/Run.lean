import Cuaderno.Sorting.Boundary

/-!
# Runs

A run of a list is a beginning in which no element comes before the one in front of it, or one in
which every element does; the latter is taken backwards. A short run is filled up with the elements
behind it, each inserted at its place. Taking a run loses no element (`perm_firstRun`,
`perm_insert`).
-/

namespace Cuaderno.Sorting

variable {α : Type}

/-- The elements in front that each go on from the one before, and the rest. -/
def chain (goesOn : α → α → Bool) (first : α) : List α → List α × List α
  | [] => ([], [])
  | x :: xs =>
    if goesOn first x then
      let (run, rest) := chain goesOn x xs
      (x :: run, rest)
    else ([], x :: xs)

def firstRun (before : α → α → Bool) : List α → List α × List α
  | x :: y :: xs =>
    if before y x then
      let (run, rest) := chain (fun a b => before b a) y xs
      ((x :: y :: run).reverse, rest)
    else
      let (run, rest) := chain (fun a b => !before b a) y xs
      (x :: y :: run, rest)
  | xs => (xs, [])

/-- A run with one more element, behind all that it does not come before. -/
def insert (before : α → α → Bool) (run : List α) (x : α) : List α :=
  let place := bisect (fun i => run[i]?.any (!before x ·)) 0 run.length
  run.take place ++ x :: run.drop place

/-- The first run of a list, filled up to a length as far as there are elements, and the rest. -/
def filledRun (before : α → α → Bool) (length : Nat) (xs : List α) : List α × List α :=
  let (run, rest) := firstRun before xs
  let missing := length - run.length
  ((rest.take missing).foldl (insert before) run, rest.drop missing)

theorem chain_append (goesOn : α → α → Bool) (first : α) (xs : List α) :
    (chain goesOn first xs).1 ++ (chain goesOn first xs).2 = xs := by
  induction xs generalizing first with
  | nil => rfl
  | cons x xs ih =>
    by_cases h : goesOn first x = true
    · simp [chain, h, ih]
    · simp [chain, h]

theorem perm_firstRun (before : α → α → Bool) (xs : List α) :
    ((firstRun before xs).1 ++ (firstRun before xs).2).Perm xs := by
  unfold firstRun
  split
  · rename_i x y xs
    split
    · have h := chain_append (fun a b => before b a) y xs
      refine ((List.reverse_perm _).append_right _).trans ?_
      simp [h]
    · have h := chain_append (fun a b => !before b a) y xs
      simp [h]
  · simp

theorem perm_insert (before : α → α → Bool) (run : List α) (x : α) :
    (insert before run x).Perm (x :: run) := by
  unfold insert
  refine List.perm_middle.trans ?_
  rw [List.take_append_drop]

theorem perm_foldl_insert (before : α → α → Bool) (run xs : List α) :
    (xs.foldl (insert before) run).Perm (run ++ xs) := by
  induction xs generalizing run with
  | nil => simp
  | cons x xs ih =>
    refine (ih _).trans ?_
    refine ((perm_insert before run x).append_right xs).trans ?_
    exact List.perm_middle.symm

theorem perm_filledRun (before : α → α → Bool) (length : Nat) (xs : List α) :
    ((filledRun before length xs).1 ++ (filledRun before length xs).2).Perm xs := by
  unfold filledRun
  refine ((perm_foldl_insert before _ _).append_right _).trans ?_
  rw [List.append_assoc, List.take_append_drop]
  exact perm_firstRun before xs

theorem length_firstRun_pos (before : α → α → Bool) {xs : List α} (h : xs ≠ []) :
    0 < (firstRun before xs).1.length := by
  unfold firstRun
  split
  · split <;> simp
  · exact List.length_pos_iff.2 h

/-- Behind the first run of a list that is not empty, less of the list is left. -/
theorem length_rest_lt (before : α → α → Bool) (length : Nat) {xs : List α} (h : xs ≠ []) :
    (filledRun before length xs).2.length < xs.length := by
  have hp := (perm_firstRun before xs).length_eq
  have hr := length_firstRun_pos before h
  simp only [List.length_append] at hp
  simp only [filledRun, List.length_drop]
  omega

end Cuaderno.Sorting
