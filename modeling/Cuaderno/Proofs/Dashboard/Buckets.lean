import Cuaderno.Proofs.Dashboard.Tally
import Cuaderno.Proofs.Number.Exact
import Cuaderno.Proofs.Outcome
import Cuaderno.Proofs.Samples

/-!
# The buckets of a chart

A pie or a bar chart has a point for each of the largest buckets, and one for all others together
(`Panel.chartData_buckets`). No item is lost: the points count as many items as the query of the
panel selects. This is said of the numbers of items (`ShowsBuckets`), of which the values of the
points are the nearest numbers: the same as long as there are less than `2^53` items.
-/

namespace Cuaderno

namespace Dashboard

open Sorting (nodup_eraseDups pairwise_eraseDups)

variable {c : ChartConfig} {catalog : Catalog} {items : List Item} {limit : Nat}
  {names kept folded : List String} {points : List ChartPoint}

def bucketNames (c : ChartConfig) (catalog : Catalog) (items : List Item) : List String :=
  items.map (bucketName c catalog)

/-- One bucket has more items than another, or it has as many and comes first. -/
def Outranks (names : List String) (a b : String) : Prop :=
  names.count b < names.count a ∨
    names.count b = names.count a ∧ names.idxOf a < names.idxOf b

theorem Outranks.count_le {a b : String} (h : Outranks names a b) :
    names.count b ≤ names.count a := by
  rcases h with h | ⟨h, -⟩
  · exact Nat.le_of_lt h
  · exact Nat.le_of_eq h

/-- The points that a chart has for the buckets kept and for those folded, with the numbers of their
items. -/
def countedPoints (names kept folded : List String) : List (String × Nat) :=
  kept.map (fun b => (b, names.count b)) ++
    if folded = [] then [] else [("Otros", (folded.map fun b => names.count b).sum)]

/-- How a chart shows the buckets of its items, which are given by name. -/
structure ShowsBuckets (names : List String) (limit : Nat) (kept folded : List String)
    (points : List ChartPoint) : Prop where
  /-- Each bucket is kept or folded, and none is so twice. -/
  buckets : (kept ++ folded).Perm names.eraseDups
  /-- As many buckets are kept as may be. -/
  length_kept : kept.length = min limit names.eraseDups.length
  /-- The largest bucket comes first, and what is kept is no smaller than what is folded. -/
  ranked : (kept ++ folded).Pairwise (Outranks names)
  /-- There is a point for each bucket kept, and one more if there are others. -/
  points : points.map (fun p => (p.name, p.value)) =
    (countedPoints names kept folded).map fun (name, n) => (name, Number.ofNat n)

/-- The buckets of some items by rank. -/
theorem exists_rankedBuckets (c : ChartConfig) (catalog : Catalog) (items : List Item) :
    ∃ ranked : List String,
      rankedBuckets c catalog items =
        ranked.map (fun b => (b, (bucketNames c catalog items).count b)) ∧
      ranked.Perm (bucketNames c catalog items).eraseDups ∧
      ranked.Pairwise (Outranks (bucketNames c catalog items)) := by
  generalize hnames : bucketNames c catalog items = names
  refine ⟨names.eraseDups.mergeSort fun a b => names.count b ≤ names.count a, ?_,
    List.mergeSort_perm _ _, ?_⟩
  · rw [rankedBuckets, ← bucketNames, hnames, tally_eq]
    exact (List.map_mergeSort (f := fun b => (b, names.count b)) fun _ _ _ _ => rfl).symm
  · have horders : Sorting.Orders (fun a b => decide (names.count b ≤ names.count a))
        fun _ => True :=
      ⟨fun a b c _ _ _ hab hbc => by simp only [decide_eq_true_eq] at *; omega,
        fun a b _ _ => by simp only [Bool.or_eq_true, decide_eq_true_eq]; omega⟩
    refine (horders.pairwise_mergeSort_stable (fun _ _ => trivial) (nodup_eraseDups names)
      (pairwise_eraseDups names)).imp fun {a b} hab => ?_
    simp only [decide_eq_true_eq] at hab
    rcases Nat.lt_or_eq_of_le hab.1 with hlt | heq
    · exact .inl hlt
    · exact .inr ⟨heq, hab.2 (Nat.le_of_eq heq.symm)⟩

private theorem map_zipIdx_point (entries : List (String × Nat))
    (color : (String × Nat) × Nat → Document) :
    (entries.zipIdx.map fun e => (⟨e.1.1, Number.ofNat e.1.2, color e⟩ : ChartPoint)).map
      (fun p => (p.name, p.value)) = entries.map fun e => (e.1, Number.ofNat e.2) := by
  calc _
    _ = (entries.zipIdx.map Prod.fst).map fun e => (e.1, Number.ofNat e.2) := by
      rw [List.map_map, List.map_map]
      rfl
    _ = entries.map fun e => (e.1, Number.ofNat e.2) := by rw [List.zipIdx_map_fst]

/-- The points of a chart by name and value: the first buckets by rank, and then the sum of the
others. -/
theorem map_bucketPoints {ranked : List String}
    (h : rankedBuckets c catalog items = ranked.map fun b => (b, names.count b)) :
    (bucketPoints c catalog items limit).map (fun p => (p.name, p.value)) =
      (countedPoints names (ranked.take limit) (ranked.drop limit)).map
        fun e => (e.1, Number.ofNat e.2) := by
  have hbound : Text.bound ranked.length limit = min limit ranked.length := by
    rw [Text.bound, if_neg (by omega), Int.toNat_natCast]
  rw [bucketPoints, h]
  simp only [List.length_map, hbound, ← List.map_take, ← List.map_drop, ← List.take_eq_take_min,
    ← List.drop_eq_drop_min]
  generalize ranked.take limit = kept
  generalize ranked.drop limit = folded
  have hcounts : (folded.map fun b => (b, names.count b)).map (·.2) =
      folded.map fun b => names.count b := by
    rw [List.map_map]
    rfl
  have hkept := map_zipIdx_point (kept.map fun b => (b, names.count b)) fun e =>
    .text ((typeColor? c catalog items e.1.1).getD (paletteColor c e.2))
  rw [hcounts, countedPoints]
  by_cases hfolded : folded = []
  · rw [if_pos hfolded, if_pos (by simpa using hfolded), List.append_nil, hkept]
  · rw [if_neg hfolded, if_neg (by simpa using hfolded), List.map_append, hkept, List.map_append,
      ← List.sum_eq_foldl]
    rfl

theorem exists_showsBuckets (c : ChartConfig) (catalog : Catalog) (items : List Item)
    (limit : Nat) : ∃ kept folded, ShowsBuckets (bucketNames c catalog items) limit kept folded
      (bucketPoints c catalog items limit) := by
  obtain ⟨ranked, hranked, hperm, houtranks⟩ := exists_rankedBuckets c catalog items
  refine ⟨ranked.take limit, ranked.drop limit, ?_, ?_, ?_, map_bucketPoints hranked⟩
  · rwa [List.take_append_drop]
  · rw [List.length_take, hperm.length_eq]
  · rwa [List.take_append_drop]

namespace ShowsBuckets

/-- Some buckets are folded exactly when there are more than may be kept. -/
theorem folded_ne_nil_iff (h : ShowsBuckets names limit kept folded points) :
    folded ≠ [] ↔ limit < names.eraseDups.length := by
  have hlength := h.buckets.length_eq
  rw [List.length_append, h.length_kept] at hlength
  rw [← List.length_pos_iff]
  omega

theorem count_le (h : ShowsBuckets names limit kept folded points) :
    ∀ a ∈ kept, ∀ b ∈ folded, names.count b ≤ names.count a := fun a ha b hb =>
  ((List.pairwise_append.1 h.ranked).2.2 a ha b hb).count_le

/-- The points count every item once. -/
theorem sum_countedPoints (h : ShowsBuckets names limit kept folded points) :
    ((countedPoints names kept folded).map Prod.snd).sum = names.length := by
  have hkept : (kept.map fun b => (b, names.count b)).map Prod.snd =
      kept.map fun b => names.count b := by
    rw [List.map_map]
    rfl
  have hfolded : ((if folded = [] then [] else
      [("Otros", (folded.map fun b => names.count b).sum)] : List (String × Nat)).map
        Prod.snd).sum = (folded.map fun b => names.count b).sum := by
    by_cases hnil : folded = []
    · rw [if_pos hnil, hnil]
      rfl
    · rw [if_neg hnil, List.map_singleton, List.sum_singleton]
  calc ((countedPoints names kept folded).map Prod.snd).sum
    _ = (kept.map fun b => names.count b).sum + (folded.map fun b => names.count b).sum := by
      rw [countedPoints, List.map_append, List.sum_append, hkept, hfolded]
    _ = ((kept ++ folded).map fun b => names.count b).sum := by
      rw [List.map_append, List.sum_append]
    _ = (names.eraseDups.map fun b => names.count b).sum := (h.buckets.map _).sum_nat
    _ = names.length := sum_counts names

theorem map_value (h : ShowsBuckets names limit kept folded points) :
    points.map ChartPoint.value =
      ((countedPoints names kept folded).map Prod.snd).map Number.ofNat := by
  have hvalues := congrArg (List.map Prod.snd) h.points
  rw [List.map_map, List.map_map] at hvalues
  rw [List.map_map]
  exact hvalues

theorem foldl_value (h : ShowsBuckets names limit kept folded points)
    (hlength : names.length < 2 ^ 53) :
    (points.map ChartPoint.value).foldl Number.add Number.zero = Number.ofNat names.length := by
  have hsum := h.sum_countedPoints
  rw [h.map_value, ← Number.ofNat_zero, Number.foldl_add_ofNat (by omega), hsum, Nat.zero_add]

theorem map_take (h : ShowsBuckets names limit kept folded points) :
    (points.take limit).map (fun p => (p.name, p.value)) =
      kept.map fun b => (b, Number.ofNat (names.count b)) := by
  have hlength := h.length_kept
  have hfirst : (countedPoints names kept folded).take limit =
      kept.map fun b => (b, names.count b) := by
    rw [countedPoints]
    by_cases hnil : folded = []
    · rw [if_pos hnil, List.append_nil, List.take_of_length_le (by rw [List.length_map]; omega)]
    · have hmore := h.folded_ne_nil_iff.1 hnil
      rw [List.take_left' (by rw [List.length_map]; omega)]
  rw [List.map_take, h.points, ← List.map_take, hfirst, List.map_map]
  rfl

/-- The values of the first points descend, and equal ones stand as their buckets first come. -/
theorem pairwise_value (h : ShowsBuckets names limit kept folded points)
    (hlength : names.length < 2 ^ 53) : (points.take limit).Pairwise fun p q =>
      q.value.lt p.value = true ∨ q.value = p.value ∧ names.idxOf p.name < names.idxOf q.name := by
  have hcount (b : String) : names.count b < 2 ^ 53 :=
    Nat.lt_of_le_of_lt List.count_le_length hlength
  have hkept : (kept.map fun b => (b, Number.ofNat (names.count b))).Pairwise fun p q =>
      q.2.lt p.2 = true ∨ q.2 = p.2 ∧ names.idxOf p.1 < names.idxOf q.1 := by
    rw [List.pairwise_map]
    refine (List.pairwise_append.1 h.ranked).1.imp fun {a b} hab => ?_
    rcases hab with hlt | ⟨heq, hfirst⟩
    · exact .inl ((Number.lt_ofNat (hcount b) (hcount a)).2 hlt)
    · exact .inr ⟨congrArg Number.ofNat heq, hfirst⟩
  rw [← h.map_take, List.pairwise_map] at hkept
  exact hkept

end ShowsBuckets

end Dashboard

namespace Panel

open Dashboard Outcome

variable {p : Panel} {c : ChartConfig} {catalog : Catalog} {items found : List Item} {clock : Clock}

theorem chartData_eq_bucketPoints (hchart : p.chart = some c)
    (hkind : c.kind = .pie ∨ c.kind = .bar)
    (hrun : p.query.run catalog items clock recentDays = .ok found) (limit : Int) :
    p.chartData catalog items clock limit = .ok (.points (bucketPoints c catalog found limit)) := by
  rcases hkind with hkind | hkind <;> simp only [chartData, hchart, hrun, ok_bind, hkind] <;> rfl

/-- Whenever its query is evaluated, a pie or a bar chart shows the buckets of the items that are
found: the largest ones, at most as many as may be kept, and all others together in one point more
if there are others. Together the points count each item that is found once. -/
theorem chartData_buckets (hchart : p.chart = some c) (hkind : c.kind = .pie ∨ c.kind = .bar)
    (hrun : p.query.run catalog items clock recentDays = .ok found) (limit : Nat) :
    ∃ points kept folded,
      p.chartData catalog items clock limit = .ok (.points points) ∧
      ShowsBuckets (bucketNames c catalog found) limit kept folded points ∧
      (folded ≠ [] ↔ limit < (bucketNames c catalog found).eraseDups.length) ∧
      (∀ a ∈ kept, ∀ b ∈ folded,
        (bucketNames c catalog found).count b ≤ (bucketNames c catalog found).count a) ∧
      ((countedPoints (bucketNames c catalog found) kept folded).map Prod.snd).sum =
        found.length ∧
      (found.length < 2 ^ 53 →
        (points.map ChartPoint.value).foldl Number.add Number.zero = Number.ofNat found.length ∧
        (points.take limit).Pairwise fun p q => q.value.lt p.value = true ∨ q.value = p.value ∧
          (bucketNames c catalog found).idxOf p.name <
            (bucketNames c catalog found).idxOf q.name) := by
  obtain ⟨kept, folded, hshows⟩ := exists_showsBuckets c catalog found limit
  have hlength : (bucketNames c catalog found).length = found.length := List.length_map _
  refine ⟨_, kept, folded, chartData_eq_bucketPoints hchart hkind hrun limit, hshows,
    hshows.folded_ne_nil_iff, hshows.count_le, ?_, fun hfound => ⟨?_, ?_⟩⟩
  · rw [hshows.sum_countedPoints, hlength]
  · rw [hshows.foldl_value (by omega), hlength]
  · exact hshows.pairwise_value (by omega)

/-- Of two notes and a task, a chart with one bucket shows the notes, and folds the task. -/
theorem chartData_buckets_leaves :
    ∃ points kept folded,
      leafPanel.chartData ⟨[], List.nodup_nil⟩ [leaf "a" "task", leaf "b" "note", leaf "c" "note"]
        ⟨none, Moment.first⟩ 1 = .ok (.points points) ∧
      ShowsBuckets ["task", "note", "note"] 1 kept folded points ∧ folded ≠ [] ∧
      (points.map ChartPoint.value).foldl Number.add Number.zero = Number.ofNat 3 := by
  have hrun : leafPanel.query.run ⟨[], List.nodup_nil⟩
      [leaf "a" "task", leaf "b" "note", leaf "c" "note"] ⟨none, Moment.first⟩ recentDays =
        .ok [leaf "a" "task", leaf "b" "note", leaf "c" "note"] := by
    decide +kernel
  obtain ⟨points, kept, folded, hdata, hshows, hfolded, -, -, hvalues⟩ :=
    chartData_buckets rfl (.inl rfl) hrun 1
  exact ⟨points, kept, folded, hdata, hshows, hfolded.2 (by decide), (hvalues (by decide)).1⟩

end Panel

end Cuaderno
