/-!
# Named fields in order

A list of named fields keeps the order in which the names first came; writing a name again changes
its value and not its place. Main statements: `lookup_put_self`, `lookup_put_of_ne` and
`map_fst_put` say what writing a field does to the values and to the names, and `mem_putAll_of_last`
and `mem_putAll_of_not_mem` which fields are left when several are written.
-/

namespace Cuaderno.Fields

variable {κ α : Type} [DecidableEq κ]

/-- Writes a field: in its place if the name is there, at the end if not. -/
def put (name : κ) (value : α) : List (κ × α) → List (κ × α)
  | [] => [(name, value)]
  | (n, v) :: rest => if n = name then (n, value) :: rest else (n, v) :: put name value rest

def putAll (fields extra : List (κ × α)) : List (κ × α) :=
  extra.foldl (fun acc (name, value) => put name value acc) fields

/-- The fields of a list of names and values, in which a name may come again. -/
def ofList (pairs : List (κ × α)) : List (κ × α) := putAll [] pairs

def erase (name : κ) (fields : List (κ × α)) : List (κ × α) :=
  fields.filter fun (n, _) => !decide (n = name)

@[simp] theorem lookup_put_self (name : κ) (value : α) (fields : List (κ × α)) :
    (put name value fields).lookup name = some value := by
  induction fields with
  | nil => simp [put]
  | cons f fields ih =>
    obtain ⟨n, v⟩ := f
    by_cases h : n = name
    · simp [put, h]
    · have hb : (name == n) = false := by simpa using Ne.symm h
      simp [put, h, List.lookup_cons, hb, ih]

theorem lookup_put_of_ne {name other : κ} (h : other ≠ name) (value : α)
    (fields : List (κ × α)) : (put name value fields).lookup other = fields.lookup other := by
  have hb : (other == name) = false := by simpa using h
  induction fields with
  | nil => simp [put, List.lookup_cons, hb]
  | cons f fields ih =>
    obtain ⟨n, v⟩ := f
    by_cases hn : n = name
    · subst hn
      simp [put, List.lookup_cons, hb]
    · cases ho : other == n <;> simp [put, hn, List.lookup_cons, ho, ih]

theorem mem_put {name : κ} {value : α} {fields : List (κ × α)} {f : κ × α}
    (h : f ∈ put name value fields) : f = (name, value) ∨ f ∈ fields := by
  induction fields with
  | nil => exact .inl (List.mem_singleton.1 h)
  | cons g fields ih =>
    obtain ⟨n, v⟩ := g
    rw [put] at h
    split at h
    · rename_i hn
      rcases List.mem_cons.1 h with rfl | h
      · exact .inl (by rw [hn])
      · exact .inr (List.mem_cons_of_mem _ h)
    · rcases List.mem_cons.1 h with rfl | h
      · exact .inr (List.mem_cons_self ..)
      · exact (ih h).imp_right (List.mem_cons_of_mem _)

theorem mem_put_self (name : κ) (value : α) (fields : List (κ × α)) :
    (name, value) ∈ put name value fields := by
  induction fields with
  | nil => exact List.mem_singleton_self _
  | cons g fields ih =>
    obtain ⟨n, v⟩ := g
    rw [put]
    split
    · rename_i hn
      rw [hn]
      exact List.mem_cons_self
    · exact List.mem_cons_of_mem _ ih

theorem mem_put_of_ne {name : κ} {value : α} {fields : List (κ × α)} {f : κ × α} (h : f ∈ fields)
    (hne : f.1 ≠ name) : f ∈ put name value fields := by
  induction fields with
  | nil => cases h
  | cons g fields ih =>
    obtain ⟨n, v⟩ := g
    rw [put]
    rcases List.mem_cons.1 h with rfl | h
    · rw [if_neg hne]
      exact List.mem_cons_self
    · split
      · exact List.mem_cons_of_mem _ h
      · exact List.mem_cons_of_mem _ (ih h)

/-- Writing a field keeps the names and adds a new one at the end. -/
theorem map_fst_put (name : κ) (value : α) (fields : List (κ × α)) :
    (put name value fields).map Prod.fst =
      if name ∈ fields.map Prod.fst then fields.map Prod.fst
      else fields.map Prod.fst ++ [name] := by
  induction fields with
  | nil => simp [put]
  | cons f fields ih =>
    obtain ⟨n, v⟩ := f
    by_cases h : n = name
    · simp [put, h]
    · simp only [put, h, if_false, List.map_cons, ih, List.mem_cons, Ne.symm h, false_or]
      split <;> simp

theorem mem_map_fst_put {name other : κ} {value : α} {fields : List (κ × α)} :
    other ∈ (put name value fields).map Prod.fst ↔ other = name ∨ other ∈ fields.map Prod.fst := by
  rw [map_fst_put]
  split
  · rename_i hname
    constructor
    · exact .inr
    · rintro (rfl | h)
      · exact hname
      · exact h
  · rw [List.mem_append, List.mem_singleton, or_comm]

theorem put_of_not_mem {name : κ} {fields : List (κ × α)} (h : name ∉ fields.map Prod.fst)
    (value : α) : put name value fields = fields ++ [(name, value)] := by
  induction fields with
  | nil => rfl
  | cons f fields ih =>
    rw [List.map_cons, List.mem_cons, not_or] at h
    rw [put, if_neg (Ne.symm h.1), ih h.2, List.cons_append]

/-- Fields with distinct names still have distinct names after writing one. -/
theorem nodup_put {name : κ} {value : α} {fields : List (κ × α)}
    (h : (fields.map Prod.fst).Nodup) : ((put name value fields).map Prod.fst).Nodup := by
  rw [map_fst_put]
  split
  · exact h
  · rename_i hn
    rw [List.nodup_append]
    refine ⟨h, by simp, ?_⟩
    intro a ha b hb
    simp only [List.mem_singleton] at hb
    subst hb
    exact fun hab => hn (hab ▸ ha)

theorem mem_map_fst_putAll {other : κ} {fields extra : List (κ × α)} :
    other ∈ (putAll fields extra).map Prod.fst ↔
      other ∈ extra.map Prod.fst ∨ other ∈ fields.map Prod.fst := by
  induction extra generalizing fields with
  | nil => simp [putAll]
  | cons g extra ih =>
    have hrest := @ih (put g.1 g.2 fields)
    rw [mem_map_fst_put] at hrest
    rw [List.map_cons, List.mem_cons, or_assoc, or_left_comm]
    exact hrest

theorem nodup_putAll {fields extra : List (κ × α)} (h : (fields.map Prod.fst).Nodup) :
    ((putAll fields extra).map Prod.fst).Nodup := by
  induction extra generalizing fields with
  | nil => exact h
  | cons g extra ih => exact ih (nodup_put h)

theorem mem_putAll_of_not_mem {fields extra : List (κ × α)} {f : κ × α} (h : f ∈ fields)
    (hnew : f.1 ∉ extra.map Prod.fst) : f ∈ putAll fields extra := by
  induction extra generalizing fields with
  | nil => exact h
  | cons g extra ih =>
    rw [List.map_cons, List.mem_cons, not_or] at hnew
    exact ih (mem_put_of_ne h hnew.1) hnew.2

/-- Of the fields that are written under one name, the last is left. -/
theorem mem_putAll_of_last {fields before after : List (κ × α)} {f : κ × α}
    (hlast : f.1 ∉ after.map Prod.fst) : f ∈ putAll fields (before ++ f :: after) := by
  have hsplit : putAll fields (before ++ f :: after) =
      putAll (put f.1 f.2 (putAll fields before)) after := by
    rw [putAll, List.foldl_append]
    rfl
  rw [hsplit]
  exact mem_putAll_of_not_mem (mem_put_self _ _ _) hlast

/-- Fields with distinct names are all there when they are written last. -/
theorem mem_putAll_of_nodup {fields extra : List (κ × α)} {f : κ × α} (h : f ∈ extra)
    (hnodup : (extra.map Prod.fst).Nodup) : f ∈ putAll fields extra := by
  obtain ⟨before, after, rfl⟩ := List.append_of_mem h
  rw [List.map_append, List.map_cons, List.nodup_append, List.nodup_cons] at hnodup
  exact mem_putAll_of_last hnodup.2.1.1

end Cuaderno.Fields
