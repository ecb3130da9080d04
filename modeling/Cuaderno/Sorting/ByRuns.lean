import Cuaderno.Sorting.Merge
import Cuaderno.Sorting.Run

/-!
# Sorting by runs

A list is cut into runs from the front, short ones filled up to a common length, and neighbouring
runs are merged so that the merges are balanced: where two runs meet has a *depth*, and of two
meeting places the deeper one is merged first.

A comparison that is a linear order has one sorted list with equal elements in their order, and
every way of sorting gives it. Some comparisons are no order, such as one of numbers of which some
are no number; what sorting gives then depends on which elements are compared, which is fixed here.
No element is lost (`perm_byRuns`).
-/

namespace Cuaderno.Sorting

variable {α : Type}

def firstPatience : Nat := wideLeap

/-- The least length of runs of a list: between 32 and 64, and such that the number of runs is a
power of two or a little less. A list of less than 64 elements is one run. -/
def leastRun (length : Nat) : Nat :=
  if length < 64 then length
  else
    let digits := Nat.log2 length - 5
    length / Nat.pow 2 digits + if length % Nat.pow 2 digits = 0 then 0 else 1

/-- The depth of the place where two neighbouring runs meet in a list: the first digit of base two
in which the middles of the runs differ, as parts of the list. -/
def depth (start left right length : Nat) : Nat :=
  let a := 2 * start + left
  let b := a + left + right
  let differ (k : Nat) : Bool := a * Nat.pow 2 k / length ≠ b * Nat.pow 2 k / length
  (((List.range (Nat.log2 length + 1)).find? differ).getD 0) + 1

/-- A run with the place where it starts, and the depth of the place where it meets the next one. -/
structure Pending (α : Type) where
  run : List α
  start : Nat
  depth : Nat := 0
  deriving Repr

/-- Runs that wait for being merged, the last one first, and the patience for the next merge. -/
structure Waiting (α : Type) where
  runs : List (Pending α) := []
  patience : Nat := firstPatience
  deriving Repr

namespace Waiting

def join (before : α → α → Bool) (patience : Nat) (left right : Pending α) : Pending α × Nat :=
  let (run, patience) := mergeRuns before patience left.run right.run
  ({ left with run := run }, patience)

/-- Merges the last runs for as long as they meet at a place deeper than a given one. -/
def settle (before : α → α → Bool) (depth : Nat) (last : Pending α) (patience : Nat) :
    List (Pending α) → Waiting α
  | [] => ⟨[{ last with depth := depth }], patience⟩
  | p :: rest =>
    if depth < p.depth then
      let (joined, patience) := join before patience p last
      settle before depth joined patience rest
    else ⟨{ last with depth := depth } :: p :: rest, patience⟩

def add (before : α → α → Bool) (length : Nat) (w : Waiting α) (start : Nat) (run : List α) :
    Waiting α :=
  let settled := match w.runs with
    | [] => w
    | last :: rest =>
      settle before (Sorting.depth last.start last.run.length run.length length) last
        w.patience rest
  { settled with runs := ⟨run, start, 0⟩ :: settled.runs }

/-- Merges all runs into one, from the last ones on; a short run before a longer one goes with the
run in front of it. -/
def finish (before : α → α → Bool) (patience : Nat) : List (Pending α) → List α
  | [] => []
  | [p] => p.run
  | [r, q] => (join before patience q r).1.run
  | r :: q :: p :: rest =>
    if p.run.length < r.run.length then
      let (joined, patience) := join before patience p q
      finish before patience (r :: joined :: rest)
    else
      let (joined, patience) := join before patience q r
      finish before patience (joined :: p :: rest)
termination_by runs => runs.length

def elements (runs : List (Pending α)) : List α := runs.flatMap (·.run)

theorem perm_join (before : α → α → Bool) (patience : Nat) (left right : Pending α) :
    (join before patience left right).1.run.Perm (left.run ++ right.run) :=
  perm_mergeRuns before patience left.run right.run

theorem perm_settle (before : α → α → Bool) (depth : Nat) (last : Pending α) (patience : Nat)
    (rest : List (Pending α)) :
    (elements (settle before depth last patience rest).runs).Perm (last.run ++ elements rest) := by
  induction rest generalizing last patience with
  | nil => exact .refl _
  | cons p rest ih =>
    unfold settle
    split
    · refine (ih _ _).trans ?_
      refine ((perm_join before patience p last).append_right _).trans ?_
      refine (List.perm_append_comm.append_right _).trans ?_
      exact .of_eq (by simp [elements])
    · exact .refl _

theorem perm_add (before : α → α → Bool) (length : Nat) (w : Waiting α) (start : Nat)
    (run : List α) :
    (elements (w.add before length start run).runs).Perm (run ++ elements w.runs) := by
  unfold add
  refine List.Perm.append_left run ?_
  split
  · exact .refl _
  · rename_i last rest h
    rw [h]
    exact perm_settle ..

theorem perm_finish (before : α → α → Bool) (patience : Nat) (runs : List (Pending α)) :
    (finish before patience runs).Perm (elements runs) := by
  fun_induction finish before patience runs with
  | case1 => exact .refl _
  | case2 patience p => exact .of_eq (by simp [elements])
  | case3 patience r q =>
    refine (perm_join ..).trans (List.perm_append_comm.trans ?_)
    exact .of_eq (by simp [elements])
  | case4 patience r q p rest h joined patience' hj ih =>
    have hq := perm_join before patience p q
    rw [hj] at hq
    refine ih.trans (List.Perm.append_left r.run ?_)
    refine (hq.append_right _).trans ((List.perm_append_comm.append_right _).trans ?_)
    exact .of_eq (List.append_assoc q.run p.run _)
  | case5 patience r q p rest h joined patience' hj ih =>
    have hq := perm_join before patience q r
    rw [hj] at hq
    refine ih.trans ((hq.append_right _).trans ((List.perm_append_comm.append_right _).trans ?_))
    exact .of_eq (List.append_assoc r.run q.run _)

end Waiting

def collect (before : α → α → Bool) (length : Nat) (w : Waiting α) (start : Nat) (xs : List α) :
    Waiting α :=
  if _h : xs = [] then w
  else
    let next := filledRun before (leastRun length) xs
    collect before length (w.add before length start next.1) (start + next.1.length) next.2
termination_by xs.length
decreasing_by exact length_rest_lt before _ _h

/-- A list sorted by a comparison that says which of two elements comes before the other. -/
def byRuns (before : α → α → Bool) (xs : List α) : List α :=
  let w := collect before xs.length {} 0 xs
  Waiting.finish before w.patience w.runs

theorem perm_collect (before : α → α → Bool) (length : Nat) (w : Waiting α) (start : Nat)
    (xs : List α) :
    (Waiting.elements (collect before length w start xs).runs).Perm
      (Waiting.elements w.runs ++ xs) := by
  fun_induction collect before length w start xs with
  | case1 => simp
  | case2 w start xs h next ih =>
    refine ih.trans (((Waiting.perm_add ..).append_right _).trans ?_)
    refine (List.perm_append_comm.append_right _).trans ?_
    rw [List.append_assoc]
    exact (perm_filledRun before _ xs).append_left _

/-- Sorting by runs loses no element. -/
theorem perm_byRuns (before : α → α → Bool) (xs : List α) : (byRuns before xs).Perm xs :=
  (Waiting.perm_finish ..).trans (perm_collect before xs.length {} 0 xs)

end Cuaderno.Sorting
