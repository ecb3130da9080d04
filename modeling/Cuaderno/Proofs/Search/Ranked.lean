import Cuaderno.Proofs.Search.Score
import Cuaderno.Proofs.Sorting.Latest

/-!
# What a search finds, and in which order

A search gives one result for each item that passes the filters and in which all terms occur. The
main theorem, `search_spec`, says so for every line, every filter and every limit: which items are
found, what their scores are, and that a greater score comes first, of equal scores the later
change, and of equal changes the item that stands first. Items are told apart by their places, so
that one that is there twice is found twice.
-/

namespace Cuaderno.Search

variable (contentTypes : Option (List String)) (catalog : Catalog) (o : Options)

def NamesType (item : Item) (word : String) : Prop :=
  word = item.typeId ∨ Text.key word = Text.key item.typeId ∨
    ∃ t, catalog.type? item.typeId = some t ∧ t.isNamedBy word = true

/-- Whether a word names a property of an item: one that the type declares is named by id or name,
any other by id. -/
def NamesProperty (item : Item) (word id : String) : Prop :=
  (∃ p, catalog.property? item.typeId id = some p ∧ p.isNamedBy word = true) ∨
    catalog.property? item.typeId id = none ∧ Text.key id = Text.key word

def HasContent (item : Item) : Prop :=
  match contentTypes with
  | some types => item.typeId ∈ types
  | none => Text.plainText item.content.toList ≠ []

/-- The items that pass all filters of a search. -/
structure Admitted (item : Item) : Prop where
  type : o.types ++ o.request.types = [] ∨
    ∃ word ∈ o.types ++ o.request.types, NamesType catalog item word
  tags : ∀ tag ∈ o.tags ++ o.request.tags, ∃ own ∈ item.tags, Text.key own = Text.key tag
  properties : ∀ filter ∈ Fields.putAll o.properties o.request.properties,
    ∃ p ∈ item.properties, NamesProperty catalog item filter.1 p.1 ∧
      Text.fold filter.2.toList <:+: Text.fold p.2.display.toList
  content : o.onlyWithContent = true → HasContent contentTypes item

theorem isOfType_iff (wanted : List String) (item : Item) :
    isOfType catalog wanted item = true ↔ ∃ word ∈ wanted, NamesType catalog item word := by
  simp only [isOfType, NamesType, List.any_eq_true, Bool.or_eq_true, beq_iff_eq, or_assoc,
    Option.any_eq_true]

theorem hasTags_iff (tags : List String) (item : Item) :
    hasTags (tags.map Text.key) item = true ↔
      ∀ tag ∈ tags, ∃ own ∈ item.tags, Text.key own = Text.key tag := by
  simp [hasTags]

theorem namesProperty_iff (item : Item) (word id : String) :
    namesProperty catalog item word id = true ↔ NamesProperty catalog item word id := by
  unfold namesProperty NamesProperty
  cases catalog.property? item.typeId id with
  | none => simp
  | some p => simp

theorem hasProperty_iff (item : Item) (word text : String) :
    hasProperty catalog item word text = true ↔
      ∃ p ∈ item.properties, NamesProperty catalog item word p.1 ∧
        Text.fold text.toList <:+: Text.fold p.2.display.toList := by
  simp only [hasProperty, List.any_eq_true, Bool.and_eq_true, namesProperty_iff,
    Text.occursIn_iff]

theorem hasContent_iff (w : Weights) (item : Item) :
    hasContent ⟨w, contentTypes⟩ item = true ↔ HasContent contentTypes item := by
  cases contentTypes with
  | none => simp [hasContent, HasContent]
  | some types => simp [hasContent, HasContent]

theorem passes_iff (w : Weights) (item : Item) :
    passes ⟨w, contentTypes⟩ catalog o item = true ↔ Admitted contentTypes catalog o item := by
  simp only [passes, Bool.and_eq_true, Bool.or_eq_true, List.isEmpty_iff, isOfType_iff,
    hasTags_iff, List.all_eq_true, hasProperty_iff, Bool.not_eq_true', hasContent_iff]
  constructor
  · rintro ⟨⟨⟨htype, htags⟩, hproperties⟩, hcontent⟩
    refine ⟨htype, htags, hproperties, fun honly => ?_⟩
    rcases hcontent with hall | hcontent
    · rw [honly] at hall
      cases hall
    · exact hcontent
  · rintro ⟨htype, htags, hproperties, hcontent⟩
    refine ⟨⟨⟨htype, htags⟩, hproperties⟩, ?_⟩
    cases honly : o.onlyWithContent with
    | false => exact .inl rfl
    | true => exact .inr (hcontent honly)

instance (item : Item) : Decidable (Admitted contentTypes catalog o item) :=
  decidable_of_iff _ (passes_iff contentTypes catalog o {} item)

/-- Whether a search finds an item: it passes the filters, and every term occurs in it. -/
def Found (item : Item) : Prop :=
  Admitted contentTypes catalog o item ∧ ∀ term ∈ o.terms, ∃ n, Counts item term n

/-- Which of two results comes first: the one with the greater score, of equal scores the one of
the later change, and of equal changes the one whose item stands first. -/
def Precedes (a b : Nat × Result) : Prop :=
  b.2.score.lt a.2.score = true ∨ a.2.score = b.2.score ∧
    (b.2.item.updated < a.2.item.updated ∨
      a.2.item.updated.instant = b.2.item.updated.instant ∧ a.1 < b.1)

/-- What the answer for some terms is, each result with the place of its item. -/
structure Ranked (items : List Item) (placed : List (Nat × Result)) : Prop where
  once : (placed.map Prod.fst).Nodup
  found : ∀ i, i ∈ placed.map Prod.fst ↔
    ∃ item, items[i]? = some item ∧ Found contentTypes catalog o item
  item : ∀ p ∈ placed, items[p.1]? = some p.2.item
  /-- A score is the sum of what the best places of the terms count. -/
  score : ∀ p ∈ placed, ∃ counts, List.Forall₂ (Best p.2.item) o.terms counts ∧
    p.2.score = total Number.zero counts ∧
    (counts.sum < 2 ^ 53 → p.2.score = Number.ofNat counts.sum)
  order : placed.Pairwise Precedes

theorem isTerm_of_mem {term : String} (h : term ∈ o.terms) : Text.IsTerm term.toList := by
  simp only [Options.terms, List.mem_filter, List.mem_map, bne_iff_ne] at h
  obtain ⟨⟨word, -, rfl⟩, hne⟩ := h
  rw [Text.toList_key]
  apply Text.isTerm_fold
  intro hnil
  exact hne (by rw [Text.key, hnil])

/-- What an item gives: a result exactly when every term counts something in it. -/
theorem result?_spec (item : Item) :
    (∃ r counts, result? {} o.terms item = some r ∧ r.item = item ∧
      List.Forall₂ (Best item) o.terms counts ∧ r.score = total Number.zero counts) ∨
    (result? {} o.terms item = none ∧ ∃ term ∈ o.terms, ∀ n, ¬ Counts item term n) :=
  score_spec item (fun _ h => isTerm_of_mem o h) _ _ _

theorem of_result?_eq_some {item : Item} {r : Result} (h : result? {} o.terms item = some r) :
    r.item = item ∧ ∃ counts, List.Forall₂ (Best item) o.terms counts ∧
      r.score = total Number.zero counts := by
  rcases result?_spec o item with ⟨r', counts, hr, hitem, hcounts, hscore⟩ | ⟨hnone, -⟩
  · rw [h, Option.some.injEq] at hr
    rw [hr]
    exact ⟨hitem, counts, hcounts, hscore⟩
  · rw [h] at hnone
    cases hnone

def placedResult? (p : Item × Nat) : Option (Nat × Result) :=
  if passes ⟨{}, contentTypes⟩ catalog o p.1 = true then (result? {} o.terms p.1).map (p.2, ·)
  else none

/-- The results that a search sorts, each with the place of its item. -/
def placedResults (items : List Item) : List (Nat × Result) :=
  items.zipIdx.filterMap (placedResult? contentTypes catalog o)

private theorem placedResult?_eq_some {p : Item × Nat} {q : Nat × Result} :
    placedResult? contentTypes catalog o p = some q ↔
      q.1 = p.2 ∧ Admitted contentTypes catalog o p.1 ∧ result? {} o.terms p.1 = some q.2 := by
  rw [placedResult?, ← passes_iff contentTypes catalog o {}]
  by_cases hp : passes ⟨{}, contentTypes⟩ catalog o p.1 = true
  · rw [if_pos hp, Option.map_eq_some_iff]
    constructor
    · rintro ⟨r, hr, rfl⟩
      exact ⟨rfl, hp, hr⟩
    · rintro ⟨hplace, -, hr⟩
      exact ⟨q.2, hr, by rw [← hplace]⟩
  · rw [if_neg hp]
    constructor
    · intro h
      cases h
    · rintro ⟨-, hp', -⟩
      exact absurd hp' hp

theorem map_snd_placedResults (items : List Item) :
    (placedResults contentTypes catalog o items).map Prod.snd =
      (items.filter (passes ⟨{}, contentTypes⟩ catalog o)).filterMap (result? {} o.terms) := by
  unfold placedResults
  generalize 0 = k
  induction items generalizing k with
  | nil => rfl
  | cons item items ih =>
    rw [List.zipIdx_cons, List.filterMap_cons, placedResult?]
    cases hp : passes ⟨{}, contentTypes⟩ catalog o item with
    | false => simp only [Bool.false_eq_true, if_false, ih, List.filter_cons, hp]
    | true =>
      simp only [if_true, List.filter_cons, hp, List.filterMap_cons]
      cases hr : result? {} o.terms item with
      | none => simp only [Option.map_none, ih]
      | some r => simp only [Option.map_some, List.map_cons, ih]

theorem mem_placedResults {items : List Item} {q : Nat × Result} :
    q ∈ placedResults contentTypes catalog o items ↔ ∃ item, items[q.1]? = some item ∧
      Admitted contentTypes catalog o item ∧ result? {} o.terms item = some q.2 := by
  simp only [placedResults, List.mem_filterMap, Prod.exists, List.mem_zipIdx_iff_getElem?,
    placedResult?_eq_some]
  constructor
  · rintro ⟨item, i, hi, rfl, ha, hr⟩
    exact ⟨item, hi, ha, hr⟩
  · rintro ⟨item, hi, ha, hr⟩
    exact ⟨item, q.1, hi, rfl, ha, hr⟩

private theorem pairwise_placedResults (items : List Item) :
    (placedResults contentTypes catalog o items).Pairwise fun a b => a.1 < b.1 := by
  rw [placedResults, List.pairwise_filterMap]
  refine (Sorting.pairwise_zipIdx items 0).imp ?_
  intro p q hpq a ha b hb
  rw [((placedResult?_eq_some ..).1 ha).1, ((placedResult?_eq_some ..).1 hb).1]
  exact hpq

private theorem notNegative_score {items : List Item} {p : Nat × Result}
    (h : p ∈ placedResults contentTypes catalog o items) : p.2.score.NotNegative := by
  obtain ⟨item, -, -, hr⟩ := (mem_placedResults ..).1 h
  obtain ⟨-, counts, -, hscore⟩ := of_result?_eq_some o hr
  rw [hscore]
  exact notNegative_total Number.notNegative_zero counts

/-- The results of a search, sorted, each with the place of its item. -/
def sortedResults (items : List Item) : List (Nat × Result) :=
  ((placedResults contentTypes catalog o items).mergeSort fun a b =>
      decide (b.2.item.updated ≤ a.2.item.updated)).mergeSort fun a b => !a.2.score.lt b.2.score

theorem perm_sortedResults (items : List Item) :
    (sortedResults contentTypes catalog o items).Perm
      (placedResults contentTypes catalog o items) :=
  (List.mergeSort_perm _ _).trans (List.mergeSort_perm _ _)

theorem map_snd_sortedResults (items : List Item) :
    (sortedResults contentTypes catalog o items).map Prod.snd =
      rank ((placedResults contentTypes catalog o items).map Prod.snd) := by
  have hall : ((placedResults contentTypes catalog o items).map Prod.snd).all
      (·.score ≠ .nan) = true := by
    rw [List.all_map, List.all_eq_true]
    intro p hp
    exact decide_eq_true (notNegative_score contentTypes catalog o hp).ne_nan
  rw [rank, if_pos hall, latestFirst, sortedResults]
  have hlatest : ((placedResults contentTypes catalog o items).mergeSort fun a b =>
      decide (b.2.item.updated ≤ a.2.item.updated)).map Prod.snd = _ :=
    List.map_mergeSort (s := fun a b => decide (b.item.updated ≤ a.item.updated))
      fun _ _ _ _ => rfl
  rw [← hlatest]
  exact List.map_mergeSort fun _ _ _ _ => rfl

/-- Two stable sorts, by change and then by score, give one order. -/
theorem pairwise_sortedResults (items : List Item) :
    (sortedResults contentTypes catalog o items).Pairwise Precedes := by
  have hplaces := pairwise_placedResults contentTypes catalog o items
  have hnodup : (placedResults contentTypes catalog o items).Nodup :=
    hplaces.imp fun hlt heq => by
      rw [heq] at hlt
      exact Nat.lt_irrefl _ hlt
  have hmem {p : Nat × Result} (hp : p ∈ sortedResults contentTypes catalog o items) :
      p.2.score.NotNegative :=
    notNegative_score contentTypes catalog o ((perm_sortedResults ..).mem_iff.1 hp)
  have hsorted := Sorting.pairwise_latest_mergeSort
    (Number.NotNegative.orders.on fun p : Nat × Result => p.2.score)
    (fun _ hp => notNegative_score contentTypes catalog o hp) hnodup hplaces
    fun p => p.2.item.updated
  refine hsorted.imp_of_mem ?_
  intro a b ha hb ⟨hle, hties⟩
  simp only [Bool.not_eq_true'] at hle hties
  cases hba : b.2.score.lt a.2.score with
  | true => exact .inl hba
  | false => exact .inr ⟨(hmem ha).eq_of_not_lt (hmem hb) hle hba, hties hba⟩

private theorem exists_best_of_mem {item : Item} {terms : List String} {counts : List Nat}
    (h : List.Forall₂ (Best item) terms counts) {term : String} (hmem : term ∈ terms) :
    ∃ n, Best item term n := by
  induction h with
  | nil => cases hmem
  | cons hn _ ih =>
    rcases List.mem_cons.1 hmem with rfl | hmem
    · exact ⟨_, hn⟩
    · exact ih hmem

private theorem ranked_sortedResults (items : List Item) :
    Ranked contentTypes catalog o items (sortedResults contentTypes catalog o items) := by
  have hperm := perm_sortedResults contentTypes catalog o items
  have hmem {q : Nat × Result} : q ∈ sortedResults contentTypes catalog o items ↔
      ∃ item, items[q.1]? = some item ∧ Admitted contentTypes catalog o item ∧
        result? {} o.terms item = some q.2 :=
    hperm.mem_iff.trans (mem_placedResults contentTypes catalog o)
  refine ⟨?_, ?_, ?_, ?_, pairwise_sortedResults contentTypes catalog o items⟩
  · rw [(hperm.map Prod.fst).nodup_iff, List.Nodup, List.pairwise_map]
    exact (pairwise_placedResults contentTypes catalog o items).imp Nat.ne_of_lt
  · intro i
    rw [List.mem_map]
    constructor
    · rintro ⟨q, hq, rfl⟩
      obtain ⟨item, hi, ha, hr⟩ := hmem.1 hq
      refine ⟨item, hi, ha, fun term hterm => ?_⟩
      obtain ⟨-, counts, hcounts, -⟩ := of_result?_eq_some o hr
      obtain ⟨n, hn⟩ := exists_best_of_mem hcounts hterm
      exact ⟨n, hn.1⟩
    · rintro ⟨item, hi, ha, hterms⟩
      rcases result?_spec o item with ⟨r, counts, hr, -, -, -⟩ | ⟨-, term, hterm, hno⟩
      · exact ⟨(i, r), hmem.2 ⟨item, hi, ha, hr⟩, rfl⟩
      · obtain ⟨n, hn⟩ := hterms term hterm
        exact absurd hn (hno n)
  · intro q hq
    obtain ⟨item, hi, -, hr⟩ := hmem.1 hq
    rw [hi, (of_result?_eq_some o hr).1]
  · intro q hq
    obtain ⟨item, hi, -, hr⟩ := hmem.1 hq
    obtain ⟨hitem, counts, hcounts, hscore⟩ := of_result?_eq_some o hr
    rw [hitem]
    refine ⟨counts, hcounts, hscore, fun hlt => ?_⟩
    rw [hscore, ← Number.ofNat_zero, total_eq_ofNat 0 (by omega), Nat.zero_add]

/-- With terms, a search gives the ranked answer; without, it gives every item that passes the
filters, in their order and with no score. A limit cuts the answer off, and a negative one is
zero. -/
theorem search_spec (items : List Item) :
    (o.terms ≠ [] → ∃ placed, Ranked contentTypes catalog o items placed ∧
      search ⟨{}, contentTypes⟩ catalog { o with limit := none } items = placed.map Prod.snd) ∧
    (o.terms = [] → search ⟨{}, contentTypes⟩ catalog { o with limit := none } items =
      (items.filter (Admitted contentTypes catalog o ·)).map (⟨·, Number.zero, []⟩)) ∧
    ∀ k, search ⟨{}, contentTypes⟩ catalog { o with limit := some k } items =
      (search ⟨{}, contentTypes⟩ catalog { o with limit := none } items).take (max k 0).toNat := by
  refine ⟨?_, ?_, ?_⟩
  · intro hterms
    refine ⟨sortedResults contentTypes catalog o items,
      ranked_sortedResults contentTypes catalog o items, ?_⟩
    rw [map_snd_sortedResults, map_snd_placedResults]
    have hsome : ¬ o.terms.isEmpty = true := by
      rwa [List.isEmpty_iff]
    exact if_neg hsome
  · intro hterms
    have hnone : o.terms.isEmpty = true := by
      rw [hterms]
      rfl
    have hfilter : items.filter (passes ⟨{}, contentTypes⟩ catalog o) =
        items.filter (Admitted contentTypes catalog o ·) := by
      apply List.filter_congr
      intro item _
      rw [Bool.eq_iff_iff, decide_eq_true_eq, passes_iff]
    rw [← hfilter]
    exact if_pos hnone
  · intro k
    have hk : (max k 0).toNat = k.toNat := by omega
    rw [hk]
    rfl

def grocery (id title : String) (tags : List String) : Item where
  id := id
  typeId := "note"
  title := title
  content := ""
  properties := []
  tags := tags
  links := []
  backlinks := []
  created := .first
  updated := .first
  embedding := none

def groceries : List Item := [grocery "a" "Comprar pan" ["compras"],
  grocery "b" "Pan integral" ["despensa"], grocery "c" "Pan integral" ["Compras"]]

def breadSearch : Options := { line := "integral pan #compras", limit := none }

/-- One piece of bread has both words and the tag: the words count 10 and, at the start, 12. -/
theorem search_spec_bread :
    breadSearch.terms = ["integral", "pan"] ∧ breadSearch.request.tags = ["compras"] ∧
      ∃ placed, Ranked none .empty breadSearch groceries placed ∧
        placed.map (fun p => (p.2.item.id, p.2.score)) = [("c", Number.ofNat 22)] ∧
        search {} .empty { breadSearch with limit := some 5 } groceries =
          (placed.map Prod.snd).take 5 := by
  have hterms : breadSearch.terms = ["integral", "pan"] := by decide +kernel
  have hscores : (search {} .empty breadSearch groceries).map (fun r => (r.item.id, r.score)) =
      [("c", Number.ofNat 22)] := by
    decide +kernel
  obtain ⟨hranked, -, hlimit⟩ := search_spec none .empty breadSearch groceries
  obtain ⟨placed, hplaced, hsearch⟩ := hranked (by rw [hterms]; exact List.cons_ne_nil _ _)
  change search {} .empty breadSearch groceries = _ at hsearch
  refine ⟨hterms, by decide +kernel, placed, hplaced, ?_, ?_⟩
  · rw [hsearch, List.map_map] at hscores
    exact hscores
  · rw [← hsearch]
    exact hlimit 5

end Cuaderno.Search
