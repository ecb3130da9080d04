import Cuaderno.Proofs.Dashboard.Buckets

/-!
# Which point counts an item

A point of a pie or a bar chart counts the items at its place: a bucket that is kept has a place of
its own, and all others share the last one (`SharesOut`). The points of the buckets kept are told
apart by their names. Since a bucket is named by the text of a value, a value can share a name with
the last point or with the bucket of the items that have no value; apart from that, items with and
without a value are counted in points of their own (`chartData_apart`).
-/

namespace Cuaderno

namespace Dashboard

open Sorting (nodup_eraseDups)

variable {c : ChartConfig} {catalog : Catalog} {found : List Item} {limit i : Nat}
  {names kept folded : List String} {points : List ChartPoint} {s : String}

/-- Whether an item has no value for the property that a chart groups by. Each item has a type. -/
def IsWithout (c : ChartConfig) (item : Item) : Prop :=
  groupBy c ≠ "type" ∧ isMissing (item.value? (groupBy c)) = true

instance (c : ChartConfig) (item : Item) : Decidable (IsWithout c item) :=
  inferInstanceAs (Decidable (_ ∧ _))

/-- The place of the point that counts an item when some buckets are kept: that of its bucket, or
the one behind them all. -/
def place (c : ChartConfig) (catalog : Catalog) (kept : List String) (item : Item) : Nat :=
  kept.idxOf (bucketName c catalog item)

/-- How a chart shares out the items that are found among its points, when some buckets are kept. -/
structure SharesOut (c : ChartConfig) (catalog : Catalog) (found : List Item) (limit : Nat)
    (kept : List String) (points : List ChartPoint) : Prop where
  /-- As many buckets are kept as may be. -/
  length_kept : kept.length = min limit (bucketNames c catalog found).eraseDups.length
  /-- No two of the buckets kept share a name. -/
  nodup : kept.Nodup
  /-- Each bucket kept is one of an item. -/
  own : ∀ name ∈ kept, name ∈ bucketNames c catalog found
  /-- Each bucket kept has a point of its own, and there is at most one more. -/
  names : points.map ChartPoint.name = kept ∨ points.map ChartPoint.name = kept ++ ["Otros"]
  /-- Each item is counted in some point. -/
  placed : ∀ item ∈ found, place c catalog kept item < points.length
  /-- Each point counts the items at its place. -/
  counts : ∀ i point, points[i]? = some point → point.value =
    Number.ofNat (found.countP fun item => place c catalog kept item == i)

private theorem countP_idxOf (h : kept.Nodup) (hi : kept[i]? = some s) (names : List String) :
    names.countP (fun name => kept.idxOf name == i) = names.count s := by
  obtain ⟨hlt, rfl⟩ := List.getElem?_eq_some_iff.1 hi
  apply List.countP_congr
  intro name _
  rw [beq_iff_eq, beq_iff_eq]
  constructor
  · rintro rfl
    exact (List.getElem_idxOf hlt).symm
  · rintro rfl
    exact h.idxOf_getElem i hlt

namespace ShowsBuckets

theorem nodup (h : ShowsBuckets names limit kept folded points) : (kept ++ folded).Nodup :=
  h.buckets.nodup_iff.2 (nodup_eraseDups names)

theorem mem_append_iff (h : ShowsBuckets names limit kept folded points) :
    s ∈ kept ++ folded ↔ s ∈ names := by
  rw [h.buckets.mem_iff, List.mem_eraseDups]

theorem map_name (h : ShowsBuckets names limit kept folded points) :
    points.map ChartPoint.name = kept ++ if folded = [] then [] else ["Otros"] := by
  have hnames := congrArg (List.map Prod.fst) h.points
  rw [List.map_map, List.map_map, countedPoints, List.map_append, List.map_map] at hnames
  calc points.map ChartPoint.name
    _ = _ := hnames
    _ = kept ++ if folded = [] then [] else ["Otros"] := by
      congr 1
      · exact List.map_id kept
      · by_cases hnil : folded = []
        · rw [if_pos hnil, if_pos hnil]
          rfl
        · rw [if_neg hnil, if_neg hnil]
          rfl

theorem length_points (h : ShowsBuckets names limit kept folded points) :
    points.length = kept.length + if folded = [] then 0 else 1 := by
  rw [← List.length_map ChartPoint.name, h.map_name, List.length_append]
  by_cases hnil : folded = []
  · rw [if_pos hnil, if_pos hnil, List.length_nil]
  · rw [if_neg hnil, if_neg hnil, List.length_singleton]

theorem sum_folded (h : ShowsBuckets names limit kept folded points) :
    (folded.map fun b => names.count b).sum =
      names.countP fun name => kept.idxOf name == kept.length := by
  have hnodup := List.nodup_append.1 h.nodup
  have hperm : folded.Perm (names.dedup.filter fun name => kept.idxOf name == kept.length) := by
    rw [List.perm_ext_iff_of_nodup hnodup.2.1 ((List.nodup_dedup names).filter _)]
    intro b
    rw [List.mem_filter, List.mem_dedup, ← h.mem_append_iff, List.mem_append, beq_iff_eq,
      List.idxOf_eq_length_iff]
    constructor
    · intro hb
      exact ⟨.inr hb, fun hkept => hnodup.2.2 b hkept b hb rfl⟩
    · rintro ⟨hb, hnot⟩
      exact hb.resolve_left hnot
  rw [(hperm.map _).sum_nat, List.sum_map_count_dedup_filter_eq_countP]

theorem entry_count (h : ShowsBuckets names limit kept folded points) {n : Nat}
    (hentry : (countedPoints names kept folded)[i]? = some (s, n)) :
    n = names.countP fun name => kept.idxOf name == i := by
  rw [countedPoints, List.getElem?_append, List.length_map] at hentry
  by_cases hi : i < kept.length
  · rw [if_pos hi, List.getElem?_map, Option.map_eq_some_iff] at hentry
    obtain ⟨b, hb, heq⟩ := hentry
    cases heq
    exact (countP_idxOf (List.nodup_append.1 h.nodup).1 hb names).symm
  · rw [if_neg hi] at hentry
    by_cases hnil : folded = []
    · rw [if_pos hnil] at hentry
      cases hentry
    · -- the entry behind those of the buckets kept is the only one
      rw [if_neg hnil, List.getElem?_singleton] at hentry
      split at hentry
      · cases hentry
        have hlast : i = kept.length := by omega
        rw [hlast]
        exact h.sum_folded
      · cases hentry

/-- Each point counts the buckets at its place. -/
theorem value_eq (h : ShowsBuckets names limit kept folded points) {point : ChartPoint}
    (hpoint : points[i]? = some point) :
    point.value = Number.ofNat (names.countP fun name => kept.idxOf name == i) := by
  have hvalue : (points.map ChartPoint.value)[i]? = some point.value := by
    rw [List.getElem?_map, hpoint, Option.map_some]
  rw [h.map_value, List.getElem?_map, List.getElem?_map, Option.map_map,
    Option.map_eq_some_iff] at hvalue
  obtain ⟨⟨name, n⟩, hentry, hn⟩ := hvalue
  rw [← hn]
  exact congrArg Number.ofNat (h.entry_count hentry)

theorem idxOf_lt (h : ShowsBuckets names limit kept folded points) (hs : s ∈ names) :
    kept.idxOf s < points.length := by
  rw [h.length_points]
  rcases List.mem_append.1 (h.mem_append_iff.2 hs) with hkept | hfolded
  · exact Nat.lt_of_lt_of_le (List.idxOf_lt_length_of_mem hkept) (Nat.le_add_right ..)
  · rw [if_neg (List.ne_nil_of_mem hfolded)]
    exact Nat.lt_succ_of_le List.idxOf_le_length

/-- The points share out the items that are found. -/
theorem sharesOut
    (h : ShowsBuckets (bucketNames c catalog found) limit kept folded points) :
    SharesOut c catalog found limit kept points where
  length_kept := h.length_kept
  nodup := (List.nodup_append.1 h.nodup).1
  own _ hname := h.mem_append_iff.1 (List.mem_append_left _ hname)
  names := by
    rw [h.map_name]
    by_cases hnil : folded = []
    · rw [if_pos hnil, List.append_nil]
      exact .inl rfl
    · rw [if_neg hnil]
      exact .inr rfl
  placed item hitem := h.idxOf_lt (List.mem_map_of_mem hitem)
  counts i point hpoint := by
    rw [h.value_eq hpoint, bucketNames, List.countP_map]
    rfl

end ShowsBuckets

namespace SharesOut

/-- The names of all points are distinct, unless a bucket with the name of the last point is kept
when there is one. -/
theorem nodup_names (h : SharesOut c catalog found limit kept points)
    (hothers : "Otros" ∈ kept → points.length = kept.length) :
    (points.map ChartPoint.name).Nodup := by
  rcases h.names with hnames | hnames
  · rw [hnames]
    exact h.nodup
  · have hlength := congrArg List.length hnames
    rw [List.length_map, List.length_append, List.length_singleton] at hlength
    rw [hnames, List.nodup_append]
    refine ⟨h.nodup, List.nodup_singleton _, fun a ha b hb => ?_⟩
    rintro rfl
    rw [List.mem_singleton.1 hb] at ha
    have hsame := hothers ha
    omega

end SharesOut

/-- Items with one place among the buckets kept are in one bucket. -/
theorem bucketName_eq_of_place {a b : Item}
    (hplace : place c catalog kept a = place c catalog kept b)
    (hkept : place c catalog kept a < kept.length) :
    bucketName c catalog a = bucketName c catalog b :=
  (List.idxOf_inj (List.idxOf_lt_length_iff.1 hkept)).1 hplace

private theorem bucketName_of_isWithout {item : Item} (h : IsWithout c item) :
    bucketName c catalog item = emptyBucket := by
  obtain ⟨hby, hmissing⟩ := h
  rw [bucketName, if_neg hby]
  cases hv : item.value? (groupBy c) with
  | none => rfl
  | some v =>
    rw [hv, isMissing_some] at hmissing
    simp only [bucketOf, hmissing, if_true]

private theorem exists_value_of_not_isWithout {item : Item} (hby : groupBy c ≠ "type")
    (h : ¬ IsWithout c item) : ∃ v, item.value? (groupBy c) = some v ∧
      bucketName c catalog item = v.display := by
  rw [bucketName, if_neg hby]
  cases hv : item.value? (groupBy c) with
  | none => exact absurd ⟨hby, by rw [hv, isMissing_none]⟩ h
  | some v =>
    have hfull : ¬ v.isEmpty = true := by
      intro hmissing
      exact h ⟨hby, by rw [hv, isMissing_some, hmissing]⟩
    exact ⟨v, rfl, if_neg hfull⟩

/-- An item without a value shares the place of a bucket kept only with values that are shown like
the name of the bucket without values. -/
theorem display_of_place {a b : Item} (hplace : place c catalog kept a = place c catalog kept b)
    (hkept : place c catalog kept a < kept.length) (ha : IsWithout c a) (hb : ¬ IsWithout c b) :
    ∃ v, b.value? (groupBy c) = some v ∧ v.display = emptyBucket := by
  obtain ⟨v, hv, hbucket⟩ := exists_value_of_not_isWithout ha.1 hb
  refine ⟨v, hv, ?_⟩
  rw [← hbucket, ← bucketName_eq_of_place hplace hkept, bucketName_of_isWithout ha]

end Dashboard

namespace Panel

open Dashboard

variable {p : Panel} {c : ChartConfig} {catalog : Catalog} {items found : List Item} {clock : Clock}

/-- Whenever its query is evaluated, a pie or a bar chart shares out the items that are found among
its points, and the names of the points are distinct, also from that of the last one, unless a
bucket kept has that name. An item without a value is counted in the point of a bucket only with
such items and with values that are shown as `Sin valor`. -/
theorem chartData_apart (hchart : p.chart = some c) (hkind : c.kind = .pie ∨ c.kind = .bar)
    (hrun : p.query.run catalog items clock recentDays = .ok found) (limit : Nat) :
    ∃ points kept, p.chartData catalog items clock limit = .ok (.points points) ∧
      SharesOut c catalog found limit kept points ∧
      (("Otros" ∈ kept → points.length = kept.length) →
        (points.map ChartPoint.name).Nodup) ∧
      ∀ a ∈ found, ∀ b ∈ found, place c catalog kept a = place c catalog kept b →
        place c catalog kept a < kept.length → IsWithout c a → ¬ IsWithout c b →
        ∃ v, b.value? (groupBy c) = some v ∧ v.display = "Sin valor" := by
  obtain ⟨kept, folded, hshows⟩ := exists_showsBuckets c catalog found limit
  refine ⟨_, kept, chartData_eq_bucketPoints hchart hkind hrun limit, hshows.sharesOut,
    hshows.sharesOut.nodup_names, ?_⟩
  intro a _ b _ hplace hkept ha hb
  exact display_of_place hplace hkept ha hb

def stateLeaf (id : String) (state : Option String) : Item :=
  { leaf id "note" with properties := (state.map fun s => ("estado", Value.text s)).toList }

def statePie : ChartConfig := { kind := .pie, groupBy := "estado" }

/-- A pie of all leaves by state, in the order in which they stand. -/
def statePanel : Panel := { leafPanel with chart := some statePie }

/-- Two leaves with one state, one with another and one without any, in a chart that keeps two
buckets: the names of the points are distinct. -/
theorem chartData_apart_states :
    ∃ points, ∃ kept : List String, statePanel.chartData ⟨[], List.nodup_nil⟩
        [stateLeaf "a" (some "hecho"), stateLeaf "b" none, stateLeaf "c" (some "hecho"),
          stateLeaf "d" (some "nuevo")] ⟨none, Moment.first⟩ 2 = .ok (.points points) ∧
      kept.length = 2 ∧ "Otros" ∉ kept ∧ (points.map ChartPoint.name).Nodup := by
  have hrun : statePanel.query.run ⟨[], List.nodup_nil⟩
      [stateLeaf "a" (some "hecho"), stateLeaf "b" none, stateLeaf "c" (some "hecho"),
        stateLeaf "d" (some "nuevo")] ⟨none, Moment.first⟩ recentDays =
      .ok [stateLeaf "a" (some "hecho"), stateLeaf "b" none, stateLeaf "c" (some "hecho"),
        stateLeaf "d" (some "nuevo")] := by
    decide +kernel
  obtain ⟨points, kept, hdata, hshares, hnames, -⟩ :=
    chartData_apart (c := statePie) rfl (.inl rfl) hrun 2
  have hothers : "Otros" ∉ kept := by
    intro hkept
    exact absurd (hshares.own _ hkept) (by decide)
  exact ⟨points, kept, hdata, hshares.length_kept, hothers, hnames fun h => absurd h hothers⟩

/-- Two points have one name when a bucket kept has the name of the last point. A leaf without a
state is counted with leaves that have one when their state is shown like the bucket without values,
and when it is in a bucket that is not kept. -/
theorem chartData_together :
    statePanel.chartData ⟨[], List.nodup_nil⟩
        [stateLeaf "a" (some "Otros"), stateLeaf "b" (some "Otros"), stateLeaf "c" (some "hecho")]
        ⟨none, Moment.first⟩ 1 =
      .ok (.points [⟨"Otros", Number.ofNat 2, .text "#6366f1"⟩,
        ⟨"Otros", Number.ofNat 1, .text "#94a3b8"⟩]) ∧
    statePanel.chartData ⟨[], List.nodup_nil⟩
        [stateLeaf "a" (some "Sin valor"), stateLeaf "b" (some "Sin valor"), stateLeaf "c" none]
        ⟨none, Moment.first⟩ 1 =
      .ok (.points [⟨"Sin valor", Number.ofNat 3, .text "#6366f1"⟩]) ∧
    statePanel.chartData ⟨[], List.nodup_nil⟩
        [stateLeaf "a" (some "hecho"), stateLeaf "b" (some "hecho"), stateLeaf "c" (some "nuevo"),
          stateLeaf "d" none] ⟨none, Moment.first⟩ 1 =
      .ok (.points [⟨"hecho", Number.ofNat 2, .text "#6366f1"⟩,
        ⟨"Otros", Number.ofNat 2, .text "#94a3b8"⟩]) ∧
    IsWithout statePie (stateLeaf "c" none) ∧ IsWithout statePie (stateLeaf "d" none) ∧
    ¬ IsWithout statePie (stateLeaf "a" (some "Sin valor")) ∧
    ¬ IsWithout statePie (stateLeaf "c" (some "nuevo")) := by
  have hranked (items : List Item)
      (h : (tally (items.map (bucketName statePie ⟨[], List.nodup_nil⟩))).Pairwise
        fun a b => b.2 ≤ a.2) : rankedBuckets statePie ⟨[], List.nodup_nil⟩ items =
          tally (items.map (bucketName statePie ⟨[], List.nodup_nil⟩)) :=
    List.mergeSort_of_pairwise (by simpa using h)
  have hdata {items : List Item} (hrun : statePanel.query.run ⟨[], List.nodup_nil⟩ items
      ⟨none, Moment.first⟩ recentDays = .ok items) (limit : Int) :=
    chartData_eq_bucketPoints (p := statePanel) rfl (.inl rfl) hrun limit
  refine ⟨?_, ?_, ?_, by decide, by decide, by decide, by decide⟩
  · rw [hdata (by decide +kernel), bucketPoints, hranked _ (by decide +kernel)]
    decide +kernel
  · rw [hdata (by decide +kernel), bucketPoints, hranked _ (by decide +kernel)]
    decide +kernel
  · rw [hdata (by decide +kernel), bucketPoints, hranked _ (by decide +kernel)]
    decide +kernel

end Panel

end Cuaderno
