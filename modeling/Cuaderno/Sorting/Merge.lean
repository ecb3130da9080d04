import Cuaderno.Sorting.Boundary

/-!
# Merging two runs

Two neighbouring runs are merged from the end at which the shorter one lies. As long as both runs
give elements in turn these are taken one by one; when one run has given enough of them in a row,
the merge goes on in leaps, for as long as these are wide. How many are enough is the *patience* of
the merge: it grows when leaps do not pay off and shrinks while they do.

Of equal elements those of the left run come first. No element is lost (`perm_mergeRuns`).
-/

namespace Cuaderno.Sorting

variable {α : Type}

inductive End where
  | front | back
  deriving DecidableEq, Repr

/-- How a merge goes on: one by one, with the numbers of elements that the left and the right run
have given in a row, or in leaps. -/
inductive Pace where
  | single (left right : Nat)
  | leaps
  deriving DecidableEq, Repr

/-- A merge under way: the elements taken so far and what is left of both runs, all in the direction
of the merge. -/
structure Merge (α : Type) where
  taken : List α
  left : List α
  right : List α
  deriving Repr

/-- The width from which on a leap pays off. -/
def wideLeap : Nat := 7

/-- Whether the next element comes from the right run, given the next ones of both. -/
def rightIsNext (before : α → α → Bool) (e : End) (a b : α) : Bool :=
  match e with
  | .front => before b a
  | .back => !before b a

/-- How many elements of a run pass a test before one fails it. The search leaps from the end of the
merge, but places are counted from the front. -/
def leapWidth (e : End) (test : α → Bool) (run : List α) : Nat :=
  match e with
  | .front => boundaryNear (fun i => run[i]?.any test) 0 run.length
  | .back =>
    let n := run.length
    n - boundaryNear (fun i => run[n - 1 - i]?.any fun a => !test a) (n - 1) n

namespace Merge

/-- Whether only the remainder is to be added: one run has nothing left, or the run that is left for
last has one element left. -/
def isOver (e : End) (m : Merge α) : Bool :=
  match e with
  | .front => m.left.length ≤ 1 || m.right.isEmpty
  | .back => m.right.length ≤ 1 || m.left.isEmpty

def result (e : End) (m : Merge α) : List α :=
  match e with
  | .front => m.taken ++ (m.right ++ m.left)
  | .back => m.taken ++ (m.left ++ m.right)

def takeLeft (e : End) (n : Nat) (m : Merge α) : Merge α :=
  if m.isOver e then m else ⟨m.taken ++ m.left.take n, m.left.drop n, m.right⟩

def takeRight (e : End) (n : Nat) (m : Merge α) : Merge α :=
  if m.isOver e then m else ⟨m.taken ++ m.right.take n, m.left, m.right.drop n⟩

/-- How many elements of the left run belong before the next one of the right run. -/
def leftLeap (before : α → α → Bool) (e : End) (m : Merge α) : Nat :=
  match m.right with
  | b :: _ => leapWidth e (fun a => !rightIsNext before e a b) m.left
  | [] => 0

/-- How many elements of the right run belong before the next one of the left run. -/
def rightLeap (before : α → α → Bool) (e : End) (m : Merge α) : Nat :=
  match m.left with
  | a :: _ => leapWidth e (rightIsNext before e a) m.right
  | [] => 0

/-- Takes one element. The flag says whether it comes from the right run. -/
def step (before : α → α → Bool) (e : End) (m : Merge α) : Merge α × Bool :=
  match m.left, m.right with
  | a :: _, b :: _ =>
    if rightIsNext before e a b then (m.takeRight e 1, true) else (m.takeLeft e 1, false)
  | _, _ => (m, false)

/-- Takes a leap from the left run and one element from the right one, and then the other way round.
The flag says whether one of the leaps was wide. -/
def leapStep (before : α → α → Bool) (e : End) (m : Merge α) : Merge α × Bool :=
  let n := m.leftLeap before e
  let m := (m.takeLeft e n).takeRight e 1
  let k := m.rightLeap before e
  ((m.takeRight e k).takeLeft e 1, wideLeap ≤ n || wideLeap ≤ k)

def size (m : Merge α) : Nat := m.left.length + m.right.length

theorem size_takeLeft_le (e : End) (n : Nat) (m : Merge α) : (m.takeLeft e n).size ≤ m.size := by
  unfold takeLeft
  split
  · exact Nat.le_refl _
  · simp only [size, List.length_drop]
    omega

theorem size_takeRight_le (e : End) (n : Nat) (m : Merge α) :
    (m.takeRight e n).size ≤ m.size := by
  unfold takeRight
  split
  · exact Nat.le_refl _
  · simp only [size, List.length_drop]
    omega

theorem length_pos_of_not_isOver {e : End} {m : Merge α} (h : m.isOver e = false) :
    0 < m.left.length ∧ 0 < m.right.length := by
  cases e with
  | front =>
    simp only [isOver, Bool.or_eq_false_iff, decide_eq_false_iff_not,
      List.isEmpty_eq_false_iff] at h
    exact ⟨by omega, List.length_pos_iff.2 h.2⟩
  | back =>
    simp only [isOver, Bool.or_eq_false_iff, decide_eq_false_iff_not,
      List.isEmpty_eq_false_iff] at h
    exact ⟨List.length_pos_iff.2 h.2, by omega⟩

theorem size_takeRight_one_lt {e : End} {m : Merge α} (h : m.isOver e = false) :
    (m.takeRight e 1).size < m.size := by
  have := length_pos_of_not_isOver h
  simp only [takeRight, h, size, List.length_drop, Bool.false_eq_true, if_false]
  omega

theorem size_takeLeft_one_lt {e : End} {m : Merge α} (h : m.isOver e = false) :
    (m.takeLeft e 1).size < m.size := by
  have := length_pos_of_not_isOver h
  simp only [takeLeft, h, size, List.length_drop, Bool.false_eq_true, if_false]
  omega

theorem size_step_lt (before : α → α → Bool) {e : End} {m : Merge α} (h : m.isOver e = false) :
    (m.step before e).1.size < m.size := by
  have hp := length_pos_of_not_isOver h
  unfold step
  split
  · split
    · exact size_takeRight_one_lt h
    · exact size_takeLeft_one_lt h
  · rename_i hne
    obtain ⟨a, as, ha⟩ := List.exists_cons_of_length_pos hp.1
    obtain ⟨b, bs, hb⟩ := List.exists_cons_of_length_pos hp.2
    exact absurd hb (hne a as b bs ha)

theorem size_leapStep_lt (before : α → α → Bool) {e : End} {m : Merge α}
    (h : m.isOver e = false) : (m.leapStep before e).1.size < m.size := by
  refine Nat.lt_of_le_of_lt (Nat.le_trans (size_takeLeft_le ..) (size_takeRight_le ..)) ?_
  generalize m.leftLeap before e = n
  cases ho : (m.takeLeft e n).isOver e with
  | false => exact Nat.lt_of_lt_of_le (size_takeRight_one_lt ho) (size_takeLeft_le ..)
  | true =>
    refine Nat.lt_of_le_of_lt (size_takeRight_le ..) ?_
    cases n with
    | zero => simp [takeLeft, h] at ho
    | succ n =>
      have := length_pos_of_not_isOver h
      simp only [takeLeft, h, size, List.length_drop, Bool.false_eq_true, if_false]
      omega

def nextPace (patience left right : Nat) (fromRight : Bool) : Pace :=
  if fromRight then if patience ≤ right + 1 then .leaps else .single 0 (right + 1)
  else if patience ≤ left + 1 then .leaps else .single (left + 1) 0

/-- Carries a merge to its end. Gives all elements in its direction, and the patience at the end. -/
def run (before : α → α → Bool) (e : End) (patience : Nat) (pace : Pace) (m : Merge α) :
    List α × Nat :=
  if _h : m.isOver e = true then (m.result e, patience)
  else
    match pace with
    | .single left right =>
      let next := m.step before e
      run before e patience (nextPace patience left right next.2) next.1
    | .leaps =>
      let next := m.leapStep before e
      if next.1.isOver e then (next.1.result e, patience)
      else if next.2 then run before e (max (patience - 1) 1) .leaps next.1
      else run before e (patience + 1) (.single 0 0) next.1
termination_by m.size
decreasing_by
  · exact size_step_lt before (by simpa using _h)
  · exact size_leapStep_lt before (by simpa using _h)
  · exact size_leapStep_lt before (by simpa using _h)

def elements (m : Merge α) : List α := m.taken ++ (m.left ++ m.right)

theorem perm_takeLeft (e : End) (n : Nat) (m : Merge α) :
    (m.takeLeft e n).elements.Perm m.elements := by
  unfold takeLeft
  split
  · exact .refl _
  · simp only [elements, List.append_assoc]
    rw [← List.append_assoc (m.left.take n), List.take_append_drop]

theorem perm_takeRight (e : End) (n : Nat) (m : Merge α) :
    (m.takeRight e n).elements.Perm m.elements := by
  unfold takeRight
  split
  · exact .refl _
  · simp only [elements, List.append_assoc]
    refine .append_left _ ?_
    rw [← List.append_assoc]
    refine (List.perm_append_comm.append_right _).trans ?_
    rw [List.append_assoc, List.take_append_drop]

theorem perm_result (e : End) (m : Merge α) : (m.result e).Perm m.elements := by
  cases e with
  | front => exact List.perm_append_comm.append_left _
  | back => exact .refl _

theorem perm_step (before : α → α → Bool) (e : End) (m : Merge α) :
    (m.step before e).1.elements.Perm m.elements := by
  unfold step
  split
  · split
    · exact perm_takeRight ..
    · exact perm_takeLeft ..
  · exact .refl _

theorem perm_leapStep (before : α → α → Bool) (e : End) (m : Merge α) :
    (m.leapStep before e).1.elements.Perm m.elements :=
  (perm_takeLeft ..).trans <| (perm_takeRight ..).trans <| (perm_takeRight ..).trans <|
    perm_takeLeft ..

theorem perm_run (before : α → α → Bool) (e : End) (patience : Nat) (pace : Pace) (m : Merge α) :
    (m.run before e patience pace).1.Perm m.elements := by
  fun_induction run before e patience pace m with
  | case1 => exact perm_result ..
  | case2 patience m h left right next ih => exact ih.trans (perm_step ..)
  | case3 patience m h next ho => exact (perm_result ..).trans (perm_leapStep ..)
  | case4 patience m h next ho hw ih => exact ih.trans (perm_leapStep ..)
  | case5 patience m h next ho hw ih => exact ih.trans (perm_leapStep ..)

end Merge

/-- Merges two runs of which the first element of the right one and the last element of the left one
are the first and the last of all, from the end at which the shorter one lies. -/
def mergeInner (before : α → α → Bool) (patience : Nat) (left right : List α) : List α × Nat :=
  if left.length ≤ right.length then
    Merge.run before .front patience (.single 0 0) ⟨right.take 1, left, right.drop 1⟩
  else
    let (merged, patience) := Merge.run before .back patience (.single 0 0)
      ⟨left.reverse.take 1, left.reverse.drop 1, right.reverse⟩
    (merged.reverse, patience)

/-- Merges two neighbouring runs. What stays in its place at the front of the left run and at the
back of the right one is found first. -/
def mergeRuns (before : α → α → Bool) (patience : Nat) (left right : List α) : List α × Nat :=
  match right with
  | [] => (left, patience)
  | b :: _ =>
    let n := boundaryNear (fun i => left[i]?.any fun a => !before b a) 0 left.length
    let inner := left.drop n
    match inner.getLast? with
    | none => (left ++ right, patience)
    | some last =>
      let k := boundaryNear (fun i => right[i]?.any (before · last)) (right.length - 1) right.length
      if k = 0 then (left ++ right, patience)
      else
        let merged := mergeInner before patience inner (right.take k)
        (left.take n ++ merged.1 ++ right.drop k, merged.2)

theorem perm_mergeInner (before : α → α → Bool) (patience : Nat) (left right : List α) :
    (mergeInner before patience left right).1.Perm (left ++ right) := by
  unfold mergeInner
  split
  · refine (Merge.perm_run ..).trans ?_
    simp only [Merge.elements]
    rw [← List.append_assoc]
    refine (List.perm_append_comm.append_right _).trans ?_
    rw [List.append_assoc, List.take_append_drop]
  · refine (List.reverse_perm _).trans ((Merge.perm_run ..).trans ?_)
    simp only [Merge.elements]
    rw [← List.append_assoc, List.take_append_drop]
    exact (List.reverse_perm left).append (List.reverse_perm right)

/-- Merging two runs loses no element. -/
theorem perm_mergeRuns (before : α → α → Bool) (patience : Nat) (left right : List α) :
    (mergeRuns before patience left right).1.Perm (left ++ right) := by
  unfold mergeRuns
  split
  · simp
  · dsimp only
    split
    · exact .refl _
    · split
      · exact .refl _
      · refine (((perm_mergeInner ..).append_left _).append_right _).trans ?_
        rw [← List.append_assoc, List.take_append_drop, List.append_assoc, List.take_append_drop]

end Cuaderno.Sorting
