import Cuaderno.QuickEntry.Suggestion

/-!
# What a title means

A title means the first item that has it, or the only item whose title contains it
(`itemTitled?_eq_some`), and in any case one of the items (`mem_of_target?`).
-/

namespace Cuaderno.QuickEntry

variable {p : Property} {candidates items : List Item} {item : Item}

theorem itemTitled?_eq_some {fragment : List Char} :
    itemTitled? candidates fragment = some item ↔ Text.fold fragment ≠ [] ∧
      (candidates.find? (Text.fold ·.title.toList == Text.fold fragment) = some item ∨
        candidates.find? (Text.fold ·.title.toList == Text.fold fragment) = none ∧
          candidates.filter (fun c => Text.occursIn (Text.fold fragment)
            (Text.fold c.title.toList)) = [item]) := by
  simp only [itemTitled?, List.isEmpty_iff]
  by_cases hk : Text.fold fragment = []
  · simp [hk]
  · rw [if_neg hk]
    cases candidates.find? (Text.fold ·.title.toList == Text.fold fragment) with
    | some found => simp [hk]
    | none =>
      simp only [hk, ne_eq, not_false_eq_true, reduceCtorEq, true_and, false_or]
      split
      · rename_i only honly
        rw [honly, Option.some.injEq, List.cons.injEq, and_iff_left rfl]
      · rename_i hmany
        constructor
        · intro h
          cases h
        · intro h
          exact absurd h (hmany item)

private theorem mem_of_itemTitled? {fragment : List Char}
    (h : itemTitled? candidates fragment = some item) : item ∈ candidates := by
  obtain ⟨-, hfound | ⟨-, honly⟩⟩ := itemTitled?_eq_some.1 h
  · exact List.mem_of_find?_eq_some hfound
  · have hmem : item ∈ candidates.filter fun c =>
        Text.occursIn (Text.fold fragment) (Text.fold c.title.toList) := by
      rw [honly]
      exact List.mem_singleton_self item
    exact (List.mem_filter.1 hmem).1

/-- A title means one of the items. -/
theorem mem_of_target? {fragment : String} (h : target? fragment p items = some item) :
    item ∈ items := by
  simp only [target?] at h
  split at h
  · split at h
    · rename_i found hfound
      cases h
      exact (List.mem_filter.1 (mem_of_itemTitled? hfound)).1
    · exact mem_of_itemTitled? h
  · exact mem_of_itemTitled? h

private theorem compatible_eq_filter (h : p.target.isPresent = true) :
    compatible p items = items.filter (mayLink (some p)) := by
  rw [compatible]
  apply List.filter_congr
  intro item _
  simp [mayLink, h]

/-- A title that some item has which may be linked means the first such item. -/
theorem target?_of_title {fragment : String} (hne : Text.fold (withoutSign fragment.toList) ≠ [])
    (h : (items.filter (mayLink (some p))).find?
      (Text.fold ·.title.toList == Text.fold (withoutSign fragment.toList)) = some item) :
    target? fragment p items = some item := by
  have htitled {candidates : List Item} (hc : candidates = items.filter (mayLink (some p))) :
      itemTitled? candidates (withoutSign fragment.toList) = some item := by
    rw [itemTitled?_eq_some, hc]
    exact ⟨hne, .inl h⟩
  simp only [target?]
  by_cases hp : p.target.isPresent = true
  · rw [if_pos hp, htitled (compatible_eq_filter hp)]
  · rw [if_neg hp]
    apply htitled
    rw [eq_comm, List.filter_eq_self]
    intro item _
    simp [mayLink, hp]

end Cuaderno.QuickEntry
