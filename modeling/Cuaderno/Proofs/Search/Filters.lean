import Cuaderno.Proofs.Search.Ranked

/-!
# Which filters a search enforces

Tags and properties are asked for in two places, by the options of a search and in its line. All
tags are asked for together. Of the properties only one value is left under each name: the last one
in the line, or the one of the options when the line has none (`search_enforces`). So a filter may
have no effect on what is found (`search_loses_filters`).
-/

namespace Cuaderno.Search

section Results

variable {policy : Policy} {catalog : Catalog} {o : Options} {items : List Item} {r : Result}

private theorem item_of_score {w : Weights} {item : Item} {plain : List Char} {terms : List String}
    {total : Number} {found : List Match} {snippet : Option Match}
    (h : score w item plain terms total found snippet = some r) : r.item = item := by
  induction terms generalizing total found snippet with
  | nil =>
    cases h
    rfl
  | cons term terms ih =>
    rw [score] at h
    split at h
    · cases h
    · exact ih h

theorem perm_rank (results : List Result) : (rank results).Perm results := by
  have hlatest : (latestFirst results).Perm results := List.mergeSort_perm _ _
  unfold rank
  split
  · exact (List.mergeSort_perm _ _).trans hlatest
  · exact (List.reverse_perm _).trans
      ((Sorting.perm_byRuns _ _).trans ((List.reverse_perm _).trans hlatest))

private theorem passes_of_mem_allResults (h : r ∈ allResults policy catalog o items) :
    passes policy catalog o r.item = true := by
  unfold allResults at h
  dsimp only at h
  split at h
  · obtain ⟨item, hitem, rfl⟩ := List.mem_map.1 h
    exact (List.mem_filter.1 hitem).2
  · rw [(perm_rank _).mem_iff] at h
    obtain ⟨item, hitem, hresult⟩ := List.mem_filterMap.1 h
    rw [item_of_score hresult]
    exact (List.mem_filter.1 hitem).2

/-- Whatever the limit and the weights, only items that pass all filters are found. -/
theorem admitted_of_mem_search (h : r ∈ search policy catalog o items) :
    Admitted policy.contentTypes catalog o r.item := by
  have hall : r ∈ allResults policy catalog o items := by
    unfold search at h
    dsimp only at h
    split at h
    · exact List.mem_of_mem_take h
    · exact h
  exact (passes_iff policy.contentTypes catalog o policy.weights r.item).1
    (passes_of_mem_allResults hall)

end Results

def valuesOf (ps : List Part) : List (String × String) :=
  ps.filterMap fun | .property name value => some (name, value) | _ => none

private theorem mem_valuesOf {ps : List Part} {name value : String} :
    (name, value) ∈ valuesOf ps ↔ .property name value ∈ ps := by
  rw [valuesOf, List.mem_filterMap]
  constructor
  · rintro ⟨part, hpart, h⟩
    cases part with
    | property n v =>
      cases h
      exact hpart
    | _ => cases h
  · intro h
    exact ⟨_, h, rfl⟩

private theorem mem_names_valuesOf {ps : List Part} {name : String} :
    name ∈ (valuesOf ps).map Prod.fst ↔ ∃ value, .property name value ∈ ps := by
  simp only [List.mem_map, Prod.exists, exists_and_right, exists_eq_right, mem_valuesOf]

private theorem mem_tags_ofLine {s word : String} :
    word ∈ (Request.ofLine s).tags ↔ .tag word ∈ parts s := by
  change word ∈ (parts s).filterMap _ ↔ _
  rw [List.mem_filterMap]
  constructor
  · rintro ⟨part, hpart, h⟩
    cases part with
    | tag w =>
      cases h
      exact hpart
    | _ => cases h
  · intro h
    exact ⟨_, h, rfl⟩

/-- Whether a value is the last one for a property in the parts of a line. -/
def IsLast (ps : List Part) (name value : String) : Prop :=
  ∃ before after, ps = before ++ .property name value :: after ∧ ∀ v, .property name v ∉ after

private theorem mem_properties_ofLine {s name value : String} (h : IsLast (parts s) name value) :
    (name, value) ∈ (Request.ofLine s).properties := by
  obtain ⟨before, after, hparts, hlast⟩ := h
  change (name, value) ∈ Fields.putAll [] (valuesOf (parts s))
  have hvalues : valuesOf (parts s) = valuesOf before ++ (name, value) :: valuesOf after := by
    rw [hparts, valuesOf, List.filterMap_append]
    rfl
  rw [hvalues]
  apply Fields.mem_putAll_of_last
  intro hname
  obtain ⟨v, hv⟩ := mem_names_valuesOf.1 hname
  exact hlast v hv

private theorem mem_names_ofLine {s name : String} :
    name ∈ (Request.ofLine s).properties.map Prod.fst ↔
      ∃ value, .property name value ∈ parts s := by
  rw [← mem_names_valuesOf]
  change name ∈ (Fields.putAll [] (valuesOf (parts s))).map Prod.fst ↔ _
  rw [Fields.mem_map_fst_putAll, List.map_nil, or_iff_left List.not_mem_nil]

/-- Whether an item has a tag, up to its key. -/
def HasTag (item : Item) (tag : String) : Prop := ∃ own ∈ item.tags, Text.key own = Text.key tag

/-- Whether a property of an item that a word names shows a text. -/
def Shows (catalog : Catalog) (item : Item) (word text : String) : Prop :=
  ∃ p ∈ item.properties, NamesProperty catalog item word p.1 ∧
    Text.fold text.toList <:+: Text.fold p.2.display.toList

instance (catalog : Catalog) (item : Item) (word text : String) :
    Decidable (Shows catalog item word text) :=
  decidable_of_iff _ (hasProperty_iff catalog item word text)

/-- What is found has all tags of the options and of the line. It shows the last value that the line
has for a property, and the values of the options for the properties that the line leaves out. -/
theorem search_enforces (policy : Policy) (catalog : Catalog) {o : Options}
    (hline : o.filtersInLine = true) (items : List Item) {r : Result}
    (h : r ∈ search policy catalog o items) :
    (∀ tag ∈ o.tags, HasTag r.item tag) ∧
    (∀ word, .tag word ∈ parts o.line → HasTag r.item word) ∧
    (∀ name value, IsLast (parts o.line) name value → Shows catalog r.item name value) ∧
    (∀ filter ∈ o.properties, (∀ value, .property filter.1 value ∉ parts o.line) →
      Shows catalog r.item filter.1 filter.2) := by
  have hadmitted := admitted_of_mem_search h
  have hrequest : o.request = Request.ofLine o.line := if_pos hline
  have htags := hadmitted.tags
  have hproperties := hadmitted.properties
  rw [hrequest] at htags hproperties
  refine ⟨?_, ?_, ?_, ?_⟩
  · intro tag htag
    exact htags tag (List.mem_append_left _ htag)
  · intro word hword
    exact htags word (List.mem_append_right _ (mem_tags_ofLine.2 hword))
  · intro name value hlast
    have hnodup : ((Request.ofLine o.line).properties.map Prod.fst).Nodup :=
      Fields.nodup_putAll List.nodup_nil
    exact hproperties (name, value)
      (Fields.mem_putAll_of_nodup (mem_properties_ofLine hlast) hnodup)
  · intro filter hfilter hnone
    refine hproperties filter (Fields.mem_putAll_of_not_mem hfilter fun hname => ?_)
    obtain ⟨value, hvalue⟩ := mem_names_ofLine.1 hname
    exact hnone value hvalue

def noTypes : Catalog := ⟨[], List.nodup_nil⟩

def houseTask (state : String) : Item where
  id := "a"
  typeId := "task"
  title := "Pintar la puerta"
  content := ""
  properties := [("estado", .text state), ("autor", .text "Ana Gil")]
  tags := ["Casa", "Urgente"]
  links := []
  backlinks := []
  created := .first
  updated := .first
  embedding := none

def doorSearch : Options where
  line := "puerta #urgente estado:\"en curso\""
  tags := ["casa"]
  properties := [("autor", "gil")]

theorem search_enforces_door : ∃ r ∈ search {} noTypes doorSearch [houseTask "En curso"],
    HasTag r.item "urgente" ∧ Shows noTypes r.item "estado" "en curso" ∧
      Shows noTypes r.item "autor" "gil" := by
  have hlength : (search {} noTypes doorSearch [houseTask "En curso"]).length = 1 := by
    decide +kernel
  obtain ⟨r, hr⟩ := List.length_eq_one_iff.1 hlength
  have hfound : r ∈ search {} noTypes doorSearch [houseTask "En curso"] := by
    rw [hr]
    exact List.mem_singleton_self r
  have hparts : parts doorSearch.line =
      [.free "puerta", .tag "urgente", .property "estado" "en curso"] := by
    decide +kernel
  obtain ⟨-, htag, hlast, hgiven⟩ := @search_enforces {} noTypes doorSearch rfl _ r hfound
  rw [hparts] at htag hlast hgiven
  refine ⟨r, hfound, htag "urgente" (by decide), hlast "estado" "en curso" ?_,
    hgiven ("autor", "gil") (List.mem_singleton_self _) ?_⟩
  · exact ⟨[.free "puerta", .tag "urgente"], [], rfl, fun _ => List.not_mem_nil⟩
  · intro value
    simp

/-- A value in the line takes the place of the value that the options have for a property, and a
later one that of an earlier one: what does not show the value before is found. -/
theorem search_loses_filters :
    ((search {} noTypes
          { line := "estado:hecho", properties := [("estado", "activo")], limit := none }
          [houseTask "Hecho"]).map (·.item) = [houseTask "Hecho"] ∧
      ¬ Shows noTypes (houseTask "Hecho") "estado" "activo") ∧
    ((search {} noTypes { line := "estado:activo estado:hecho", limit := none }
          [houseTask "Hecho"]).map (·.item) = [houseTask "Hecho"] ∧
      .property "estado" "activo" ∈ parts "estado:activo estado:hecho" ∧
      ¬ Shows noTypes (houseTask "Hecho") "estado" "activo") := by
  refine ⟨⟨?_, ?_⟩, ?_, ?_, ?_⟩
  all_goals decide +kernel

end Cuaderno.Search
