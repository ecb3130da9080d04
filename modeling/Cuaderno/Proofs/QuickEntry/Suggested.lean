import Cuaderno.Proofs.QuickEntry.ItemStart

/-!
# What is suggested

Suggestions are given exactly while a value is being read that may be a relation
(`suggest_eq_some_iff`). Each of them stands for an item that the relation may link to, and they
belong to the place where the item starts that is being typed: behind the blanks in front of it, if
it is the only one (`take_insertAt`).
-/

namespace Cuaderno.QuickEntry

open Cuaderno.Text (isBlank)

theorem mem_ranked {k : List Char} {items : List Item} {item : Item} :
    item ∈ ranked k items ↔
      item ∈ items ∧ Text.occursIn k (Text.fold item.title.toList) = true := by
  simp only [ranked, List.mem_mergeSort, List.mem_filter]

theorem length_ranked_le (k : List Char) (items : List Item) :
    (ranked k items).length ≤ items.length := by
  simp only [ranked, List.length_mergeSort]
  exact List.length_filter_le ..

/-- The property whose value is being read, if the type and the name resolve. -/
def Progress.property? (q : Progress) (catalog : Catalog) : Option Property :=
  (catalog.resolve q.typeWord).bind (·.resolve (q.pending.getD ""))

/-- What is suggested for a line of which a scan has read a value, from the start of the item that
is being typed. -/
def Progress.suggestions (q : Progress) (line : List Char) (catalog : Catalog) (items : List Item)
    (limit : Int) : Suggestions :=
  let start := itemStart line q.segmentStart
  let typed := withoutSign (line.drop start)
  let found := ranked (Text.fold typed) (items.filter (mayLink (q.property? catalog)))
  ⟨start, (found.take limit.toNat).map (Suggestion.ofItem catalog), q.pending.getD "",
    String.ofList typed⟩

/-- There are suggestions exactly while a value is being read that closes no list, of a relation or
of an unknown property. -/
theorem suggest_eq_some_iff {s : String} {catalog : Catalog} {items : List Item} {limit : Int}
    {cursor : Option Int} {g : Suggestions} :
    suggest s catalog items limit cursor = some g ↔
      ∃ q, scan (String.ofList (beforeCursor s cursor)) = .ok q ∧ q.reading = .value ∧
        ']' ∉ (beforeCursor s cursor).drop q.segmentStart ∧
        (∀ p, q.property? catalog = some p → p.kind = .relation) ∧
        g = q.suggestions (beforeCursor s cursor) catalog items limit := by
  simp only [suggest]
  cases scan (String.ofList (beforeCursor s cursor)) with
  | error q => simp
  | ok q =>
    simp only [Except.ok.injEq, exists_eq_left', Progress.suggestions, Progress.property?,
      List.contains_iff_mem]
    by_cases hreading : q.reading = .value
    · by_cases hclosed : ']' ∈ (beforeCursor s cursor).drop q.segmentStart
      · simp [hreading, hclosed]
      · cases (catalog.resolve q.typeWord).bind (·.resolve (q.pending.getD "")) with
        | none => simp [hreading, hclosed, eq_comm]
        | some p =>
          by_cases hkind : p.kind = .relation
          · simp [hreading, hclosed, hkind, eq_comm]
          · simp [hreading, hclosed, hkind]
    · simp [hreading]

/-- A suggestion stands for an item that may be linked. -/
theorem Progress.exists_of_mem_suggestions {q : Progress} {line : List Char} {catalog : Catalog}
    {items : List Item} {limit : Int} {x : Suggestion}
    (h : x ∈ (q.suggestions line catalog items limit).items) : ∃ item ∈ items,
      mayLink (q.property? catalog) item = true ∧ x = Suggestion.ofItem catalog item := by
  obtain ⟨item, hitem, rfl⟩ := List.mem_map.1 h
  have hfound := (mem_ranked.1 (List.mem_of_mem_take hitem)).1
  obtain ⟨hmem, hlink⟩ := List.mem_filter.1 hfound
  exact ⟨item, hmem, hlink, rfl⟩

/-- A single item starts at the first character of its value that is not blank. -/
theorem itemStart_of_single {before value : List Char} (hbracket : '[' ∉ value)
    (hcomma : ',' ∉ value) : itemStart (before ++ value) before.length =
      before.length + (value.takeWhile isBlank).length := by
  have hlen : (before ++ value).length = before.length + value.length := List.length_append
  obtain ⟨hle, hend, hdrop⟩ := @itemStart_spec (before ++ value) before.length
    (by omega)
  rw [List.drop_left, lastItem_of_single hbracket hcomma] at hdrop
  -- what is left of the line from there on is as long as the value without its blanks
  have hrest := congrArg List.length hdrop
  have hvalue := congrArg List.length (List.takeWhile_append_dropWhile (p := isBlank) (l := value))
  rw [List.length_drop] at hrest
  rw [List.length_append] at hvalue
  unfold Text.trimStart at hrest
  omega

theorem take_insertAt {s : String} {cursor : Option Int} {before value : List Char}
    (hline : beforeCursor s cursor = before ++ value) (hbracket : '[' ∉ value)
    (hcomma : ',' ∉ value) :
    s.toList.take (itemStart (beforeCursor s cursor) before.length) =
      before ++ value.takeWhile isBlank := by
  have hprefix : beforeCursor s cursor <+: s.toList := by
    unfold beforeCursor
    split
    · exact List.prefix_rfl
    · exact List.take_prefix ..
  have hopens : before ++ value.takeWhile isBlank <+: s.toList := by
    refine List.IsPrefix.trans ?_ hprefix
    rw [hline, List.prefix_append_right_inj]
    exact List.takeWhile_prefix _
  rw [hline, itemStart_of_single hbracket hcomma, ← List.length_append]
  exact (List.prefix_iff_eq_take.1 hopens).symm

end Cuaderno.QuickEntry
