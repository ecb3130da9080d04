import Cuaderno.Proofs.QuickEntry.Acceptance

/-!
# The slot of a suggestion

A suggestion is put where the item starts that is being typed, up to the end of the line. This slot
lies in the value that is being read and holds its last item, and nothing else: whatever is put
there instead becomes the end of this value, and the rest of the entry stays as it is
(`suggest_slot`).
-/

namespace Cuaderno.QuickEntry

open Cuaderno.Text (trim)

/-- What a typed item is, given its place at the end of a line: it is not trimmed again behind an
`@` in front. -/
def IsTyped (rest typed : List Char) : Prop :=
  trim rest = '@' :: typed ∨ trim rest = typed ∧ typed.head? ≠ some '@'

theorem isTyped_withoutSign (rest : List Char) : IsTyped rest (withoutSign rest) := by
  unfold IsTyped withoutSign
  split
  · rename_i typed hsign
    exact .inl hsign
  · rename_i hsign
    refine .inr ⟨rfl, fun hhead => ?_⟩
    obtain ⟨typed, htyped⟩ := List.head?_eq_some_iff.1 hhead
    exact hsign typed htyped

/-- The slot of some suggestions at the end of a line of which a scan has made some progress. -/
structure IsSlot (line : List Char) (q : Progress) (g : Suggestions) : Prop where
  /-- It starts in the value that is being read. -/
  inValue : q.reading = .value ∧ q.segmentStart ≤ g.insertAt ∧ g.insertAt ≤ line.length
  /-- It holds one item, and this item is what has been typed. -/
  single : ',' ∉ line.drop g.insertAt ∧ '>' ∉ line.drop g.insertAt
  typed : IsTyped (line.drop g.insertAt) g.typed.toList
  /-- Of the assignments that the scan has found, a text in the slot changes the last one only. -/
  replace : ∃ others value, q.pending = some g.property ∧ g.property ∉ others.map Prod.fst ∧
    q.assignments = others ++ [(g.property, value)] ∧
    ∀ text, '>' ∉ text → scan (String.ofList (line.take g.insertAt ++ text)) =
      .ok { q with assignments := others ++
        [(g.property, trimmed ((line.take g.insertAt).drop q.segmentStart ++ text))] }

/-- Suggestions come with the slot of the last item: exactly this item is replaced by what is put
there. -/
theorem suggest_slot {s : String} {catalog : Catalog} {items : List Item} {limit : Int}
    {cursor : Option Int} {g : Suggestions} (hg : suggest s catalog items limit cursor = some g) :
    ∃ q, scan (String.ofList (beforeCursor s cursor)) = .ok q ∧
      IsSlot (beforeCursor s cursor) q g := by
  obtain ⟨q, hscan, hreading, -, -, hsuggestions⟩ := suggest_eq_some_iff.1 hg
  obtain ⟨before, value, opened, hline, hvalue, -, hstart, hq, hresume⟩ :=
    exists_value hscan hreading
  rw [String.toList_ofList] at hline
  have hsegment : q.segmentStart = before.length := by rw [hq]; exact hstart
  have hinsert : g.insertAt = itemStart (before ++ value) before.length := by
    rw [hsuggestions, ← hline, ← hsegment]
    rfl
  have hproperty : q.pending = some g.property := by
    obtain ⟨property, hpending⟩ := exists_pending hscan hreading
    rw [hsuggestions, Progress.suggestions, hpending, Option.getD_some]
  have htyped : g.typed.toList = withoutSign ((beforeCursor s cursor).drop g.insertAt) := by
    rw [hsuggestions]
    exact String.toList_ofList
  obtain ⟨hle, hend, hdrop⟩ := @itemStart_spec (before ++ value) before.length
    (by rw [List.length_append]; omega)
  rw [List.drop_left, ← hinsert] at hdrop
  rw [← hinsert] at hle hend
  refine ⟨q, hscan, ⟨hreading, hsegment ▸ hle, hline ▸ hend⟩, ?_, ?_, ?_⟩
  · rw [hline, hdrop]
    exact ⟨comma_not_mem_lastItem value, fun h => hvalue ((lastItem_suffix value).subset h)⟩
  · rw [htyped]
    exact isTyped_withoutSign _
  -- what stays of the value stands between its start and the slot
  · have htake : (before ++ value).take g.insertAt =
        before ++ value.take (g.insertAt - before.length) := by
      rw [List.take_append, List.take_of_length_le hle]
    have hkept : ((before ++ value).take g.insertAt).drop q.segmentStart =
        value.take (g.insertAt - before.length) := by
      rw [htake, hsegment, List.drop_left]
    have hopened : opened.pending = some g.property := by rw [← hproperty, hq]; rfl
    have hassign (other : List Char) : opened.assign other = { q with
        assignments := Fields.erase g.property opened.assignments ++
          [(g.property, trimmed other)] } := by
      simp only [hq, Progress.assign, hopened, Option.getD_some]
    refine ⟨Fields.erase g.property opened.assignments, trimmed value, hproperty, ?_, ?_, ?_⟩
    · simp [Fields.erase]
    · rw [hq, hassign]
    · intro text htext
      rw [hline, hkept, htake, List.append_assoc, hresume, hassign]
      rw [List.mem_append, not_or]
      exact ⟨fun h => hvalue (List.mem_of_mem_take h), htext⟩

/-- In a list of people the slot holds the second name, with its `@`. -/
theorem suggest_slot_call :
    suggest (callTo "[Ana, @pe") calls [person "p1" "Pedro"] 8 none =
        some ⟨33, [suggested "p1" "Pedro"], "gente", "pe"⟩ ∧
      ∃ q, scan (String.ofList (beforeCursor (callTo "[Ana, @pe") none)) = .ok q ∧
        IsSlot (beforeCursor (callTo "[Ana, @pe") none) q
          ⟨33, [suggested "p1" "Pedro"], "gente", "pe"⟩ := by
  have hsuggest : suggest (callTo "[Ana, @pe") calls [person "p1" "Pedro"] 8 none =
      some ⟨33, [suggested "p1" "Pedro"], "gente", "pe"⟩ := by
    decide +kernel
  exact ⟨hsuggest, suggest_slot hsuggest⟩

end Cuaderno.QuickEntry
