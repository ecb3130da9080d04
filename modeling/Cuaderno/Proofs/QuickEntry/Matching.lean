import Cuaderno.Proofs.QuickEntry.Slot
import Cuaderno.Proofs.Sorting.Latest

/-!
# Which items are suggested, and in which order

The items that are suggested are those that the relation may link to and whose titles contain what
has been typed. The titles that start with it come first, then the items that were changed last, and
of equal changes the item that stands first (`suggest_ranking`). Items are told apart by their
places, so that one that is there twice is suggested twice.

Typing narrows the choice: a character that ends neither the item nor the value goes on with what
has been typed (`lastItem_concat`), an `@` in front aside, and so does its folded form.
-/

namespace Cuaderno.QuickEntry

open Cuaderno.Text (isBlank trimStart)

/-- Whether an item is suggested for what has been typed of the value of a property: it has the
type that the relation is restricted to, if there is one, and its title contains the text. -/
structure Matches (q : Progress) (catalog : Catalog) (typed : String) (item : Item) : Prop where
  type : ∀ p, q.property? catalog = some p → p.target.isPresent = true →
    p.target = .text item.typeId
  title : Text.fold typed.toList <:+: Text.fold item.title.toList

def Starts (typed : String) (item : Item) : Prop :=
  Text.fold typed.toList <+: Text.fold item.title.toList

/-- Which of two items, each with its place, is suggested first: the one whose title starts with
what has been typed, of two such or two others the one of the later change, and of equal changes the
one that stands first. -/
def Precedes (typed : String) (a b : Item × Nat) : Prop :=
  Starts typed a.1 ∧ ¬ Starts typed b.1 ∨ (Starts typed a.1 ↔ Starts typed b.1) ∧
    (b.1.updated < a.1.updated ∨ a.1.updated.instant = b.1.updated.instant ∧ a.2 < b.2)

/-- All items that match what has been typed, in the order of the suggestions. -/
structure Ranking (q : Progress) (catalog : Catalog) (typed : String) (items : List Item)
    (placed : List (Item × Nat)) : Prop where
  once : (placed.map Prod.snd).Nodup
  found : ∀ item i, (item, i) ∈ placed ↔ items[i]? = some item ∧ Matches q catalog typed item
  order : placed.Pairwise (Precedes typed)

theorem mayLink_iff {p? : Option Property} {item : Item} : mayLink p? item = true ↔
    ∀ p, p? = some p → p.target.isPresent = true → p.target = .text item.typeId := by
  cases p? with
  | none => simp [mayLink]
  | some p =>
    simp only [mayLink, Bool.or_eq_true, Bool.not_eq_true', decide_eq_true_eq, Option.some.injEq,
      forall_eq']
    cases p.target.isPresent with
    | true => simp
    | false => simp

theorem starts_iff {typed : String} {item : Item} : Starts typed item ↔
    (Text.fold typed.toList).isPrefixOf (Text.fold item.title.toList) = true :=
  List.isPrefixOf_iff_prefix.symm

section Places

variable (p? : Option Property) (k : List Char) (items : List Item)

def fittingPlaces : List (Item × Nat) :=
  items.zipIdx.filter fun a => mayLink p? a.1 && Text.occursIn k (Text.fold a.1.title.toList)

def rankedPlaces : List (Item × Nat) :=
  ((fittingPlaces p? k items).mergeSort fun a b => decide (b.1.updated ≤ a.1.updated)).mergeSort
    fun a b => k.isPrefixOf (Text.fold a.1.title.toList) ||
      !k.isPrefixOf (Text.fold b.1.title.toList)

private theorem map_fst_fittingPlaces : (fittingPlaces p? k items).map Prod.fst =
    (items.filter (mayLink p?)).filter
      fun item => Text.occursIn k (Text.fold item.title.toList) := by
  calc (fittingPlaces p? k items).map Prod.fst
    _ = (items.zipIdx.map Prod.fst).filter fun item =>
          mayLink p? item && Text.occursIn k (Text.fold item.title.toList) := by
        rw [List.filter_map]
        rfl
    _ = _ := by
        rw [List.zipIdx_map_fst, List.filter_filter]
        apply List.filter_congr
        intro item _
        exact Bool.and_comm ..

private theorem map_fst_rankedPlaces :
    (rankedPlaces p? k items).map Prod.fst = ranked k (items.filter (mayLink p?)) := by
  have hlatest : ((fittingPlaces p? k items).mergeSort fun a b =>
      decide (b.1.updated ≤ a.1.updated)).map Prod.fst = _ :=
    List.map_mergeSort (s := fun a b => decide (b.updated ≤ a.updated)) fun _ _ _ _ => rfl
  rw [ranked, ← map_fst_fittingPlaces, ← hlatest]
  exact List.map_mergeSort fun _ _ _ _ => rfl

theorem perm_rankedPlaces : (rankedPlaces p? k items).Perm (fittingPlaces p? k items) :=
  (List.mergeSort_perm _ _).trans (List.mergeSort_perm _ _)

private theorem pairwise_fittingPlaces :
    (fittingPlaces p? k items).Pairwise fun a b => a.2 < b.2 :=
  (Sorting.pairwise_zipIdx items 0).sublist List.filter_sublist

end Places

theorem orders_starts : Sorting.Orders (fun a b : Bool => a || !b) fun _ => True where
  trans a b c _ _ _ hab hbc := by
    cases b with
    | true => simp_all
    | false => simp_all
  total a b _ _ := by
    cases a with
    | true => simp
    | false => simp

private theorem ranking_rankedPlaces (q : Progress) (catalog : Catalog) (typed : String)
    (items : List Item) : Ranking q catalog typed items
      (rankedPlaces (q.property? catalog) (Text.fold typed.toList) items) := by
  have hperm := perm_rankedPlaces (q.property? catalog) (Text.fold typed.toList) items
  have hplaces := pairwise_fittingPlaces (q.property? catalog) (Text.fold typed.toList) items
  refine ⟨?_, ?_, ?_⟩
  · rw [(hperm.map Prod.snd).nodup_iff, List.Nodup, List.pairwise_map]
    exact hplaces.imp Nat.ne_of_lt
  · intro item i
    rw [hperm.mem_iff, fittingPlaces, List.mem_filter, List.mem_zipIdx_iff_getElem?,
      Bool.and_eq_true, mayLink_iff, Text.occursIn_iff]
    exact and_congr_right fun _ => ⟨fun ⟨htype, htitle⟩ => ⟨htype, htitle⟩,
      fun ⟨htype, htitle⟩ => ⟨htype, htitle⟩⟩
  · have hnodup : (fittingPlaces (q.property? catalog) (Text.fold typed.toList) items).Nodup :=
      hplaces.imp fun hlt heq => Nat.ne_of_lt hlt (congrArg Prod.snd heq)
    have hsorted := Sorting.pairwise_latest_mergeSort
      (orders_starts.on fun a : Item × Nat =>
        (Text.fold typed.toList).isPrefixOf (Text.fold a.1.title.toList))
      (fun _ _ => trivial) hnodup hplaces fun a => a.1.updated
    refine hsorted.imp ?_
    intro a b ⟨hle, hties⟩
    unfold Precedes
    rw [starts_iff, starts_iff]
    rw [Bool.or_eq_true, Bool.not_eq_true'] at hle hties
    cases ha : (Text.fold typed.toList).isPrefixOf (Text.fold a.1.title.toList) with
    | false =>
      have hb := hle.resolve_left (by simp [ha])
      exact .inr ⟨by simp [hb], hties (.inr ha)⟩
    | true =>
      cases hb : (Text.fold typed.toList).isPrefixOf (Text.fold b.1.title.toList) with
      | false => exact .inl ⟨rfl, by simp⟩
      | true => exact .inr ⟨Iff.rfl, hties (.inl hb)⟩

section Narrowing

variable {c : Char}

/-- A character at the end of a value is listed, unless nothing was listed before. -/
theorem listBody_concat (value : List Char) (c : Char) :
    listBody (value ++ [c]) = listBody value ++ [c] ∨ listBody value = [] := by
  by_cases hblank : ∃ d ∈ value, isBlank d = false
  · obtain ⟨hne, hstart⟩ := Text.dropWhile_append_of_mem hblank [c]
    obtain ⟨first, rest, hrest⟩ := List.exists_cons_of_ne_nil hne
    left
    rw [hrest] at hstart
    rw [listBody, listBody, trimStart, trimStart, hstart, hrest]
    by_cases hbracket : first = '['
    · rw [hbracket]
      rfl
    · simp [hbracket]
  · right
    have hnil : trimStart value = [] := by
      rw [trimStart, List.dropWhile_eq_nil_iff]
      simpa using hblank
    rw [listBody, hnil]

theorem lastItem_concat (hc : c ≠ ',') (value : List Char) :
    lastItem value <+: lastItem (value ++ [c]) := by
  rcases listBody_concat value c with hbody | hbody
  · rw [lastItem, lastItem, hbody, Text.behindLast_concat hc]
    exact Text.trimStart_mono (List.prefix_append ..)
  · have hnil : lastItem value = [] := by
      rw [lastItem, hbody]
      rfl
    rw [hnil]
    exact List.nil_prefix

private theorem withoutSign_mono {xs ys : List Char} (h : xs <+: ys) :
    withoutSign xs <+: withoutSign ys := by
  have htrim := Text.trim_mono h
  rcases isTyped_withoutSign xs with hxs | ⟨hxs, hsign⟩
  · rw [hxs] at htrim
    rcases isTyped_withoutSign ys with hys | ⟨hys, hsign⟩
    · rw [hys, List.cons_prefix_cons] at htrim
      exact htrim.2
    · obtain ⟨more, hmore⟩ := htrim
      rw [← hys, ← hmore] at hsign
      exact absurd rfl hsign
  · rw [hxs] at htrim
    rcases isTyped_withoutSign ys with hys | ⟨hys, -⟩
    · rw [hys] at htrim
      cases hcs : withoutSign xs with
      | nil => exact List.nil_prefix
      | cons d cs =>
        rw [hcs, List.cons_prefix_cons] at htrim
        rw [hcs, htrim.1] at hsign
        exact absurd rfl hsign
    · rwa [hys] at htrim

/-- Going on with a line by a character that is no comma keeps the property whose value is being
read, and goes on with what has been typed of it. -/
theorem narrows {line : List Char} (hc : c ≠ ',') {q q' : Progress}
    (hscan : scan (String.ofList line) = .ok q) (hreading : q.reading = .value)
    (hscan' : scan (String.ofList (line ++ [c])) = .ok q') (hreading' : q'.reading = .value)
    (catalog : Catalog) : q'.property? catalog = q.property? catalog ∧
      line.drop (itemStart line q.segmentStart) <+:
        (line ++ [c]).drop (itemStart (line ++ [c]) q'.segmentStart) := by
  obtain ⟨before, value, opened, hline, hvalue, rfl, hopens⟩ := exists_opensValue hscan hreading
  rw [String.toList_ofList] at hline
  rw [hline, List.append_assoc] at hscan'
  have hend : c ≠ '>' := by
    rintro rfl
    exact hopens.reading_ne_of_greater hvalue hscan' hreading'
  have hvalue' : '>' ∉ value ++ [c] := by
    rw [List.mem_append, not_or, List.mem_singleton]
    exact ⟨hvalue, hend.symm⟩
  rw [hopens.scan_eq hvalue', Except.ok.injEq] at hscan'
  rw [← hscan']
  refine ⟨rfl, ?_⟩
  have hstart (value : List Char) : (opened.assign value).segmentStart = before.length :=
    hopens.start
  have hitem (value : List Char) :
      (before ++ value).drop (itemStart (before ++ value) before.length) = lastItem value := by
    have hlen : before.length ≤ (before ++ value).length := (List.prefix_append ..).length_le
    rw [(itemStart_spec hlen).2.2, List.drop_left]
  rw [hstart, hstart, hline, List.append_assoc, hitem, hitem]
  exact lastItem_concat hc value

end Narrowing

/-- The suggestions are the first of all items that match what has been typed, in their order, as
many as the limit says. Whatever character is typed next, unless it is a comma, an item that still
matches has matched before. -/
theorem suggest_ranking {s : String} {catalog : Catalog} {items : List Item} {limit : Int}
    {cursor : Option Int} {g : Suggestions} (hg : suggest s catalog items limit cursor = some g) :
    ∃ q placed, scan (String.ofList (beforeCursor s cursor)) = .ok q ∧
      Ranking q catalog g.typed items placed ∧
      g.items = (placed.take (max 0 limit).toNat).map (Suggestion.ofItem catalog ·.1) ∧
      ∀ c q' items' limit' g', c ≠ ',' →
        scan (String.ofList (beforeCursor s cursor ++ [c])) = .ok q' →
        suggest (String.ofList (beforeCursor s cursor ++ [c])) catalog items' limit' none =
          some g' →
        ∀ item, Matches q' catalog g'.typed item → Matches q catalog g.typed item := by
  obtain ⟨q, hscan, hreading, -, -, rfl⟩ := suggest_eq_some_iff.1 hg
  refine ⟨q, _, hscan, ranking_rankedPlaces q catalog _ items, ?_, ?_⟩
  · have hlimit : (max 0 limit).toNat = limit.toNat := by omega
    rw [hlimit, ← Function.comp_def, ← List.map_map, List.map_take, map_fst_rankedPlaces,
      Progress.suggestions, String.toList_ofList]
  · intro c q' items' limit' g' hc hscan' hg' item hmatches
    obtain ⟨q'', hscan'', hreading', -, -, rfl⟩ := suggest_eq_some_iff.1 hg'
    rw [beforeCursor, String.toList_ofList] at hscan'' hmatches
    obtain rfl : q'' = q' := Except.ok.inj (hscan''.symm.trans hscan')
    obtain ⟨hproperty, htyped⟩ := narrows hc hscan hreading hscan' hreading' catalog
    refine ⟨hproperty ▸ hmatches.type, ?_⟩
    have htitle := hmatches.title
    simp only [Progress.suggestions, String.toList_ofList] at htitle ⊢
    exact (Text.fold_mono (withoutSign_mono htyped)).isInfix.trans htitle

def juanAndAna : List Item := [person "p1" "Juan", person "p2" "Ana"]

private theorem ranked_juanAndAna :
    ranked (Text.fold ['a', 'n']) juanAndAna = [person "p2" "Ana", person "p1" "Juan"] := by
  have hfit : juanAndAna.filter (fun item =>
      Text.occursIn (Text.fold ['a', 'n']) (Text.fold item.title.toList)) = juanAndAna := by
    decide +kernel
  have hjuan : (Text.fold ['a', 'n']).isPrefixOf
      (Text.fold (person "p1" "Juan").title.toList) = false := by
    decide +kernel
  have hana : (Text.fold ['a', 'n']).isPrefixOf
      (Text.fold (person "p2" "Ana").title.toList) = true := by
    decide +kernel
  have hchange : (person "p2" "Ana").updated ≤ (person "p1" "Juan").updated := by
    decide +kernel
  rw [ranked, hfit, juanAndAna]
  simp [List.mergeSort, List.MergeSort.Internal.splitInTwo, hjuan, hana, hchange]

/-- Ana is suggested before Juan, although she stands behind him. -/
theorem suggest_ranking_call :
    suggest (callTo "an") calls juanAndAna 8 none =
        some ⟨27, [suggested "p2" "Ana", suggested "p1" "Juan"], "gente", "an"⟩ ∧
      ∃ q placed, scan (String.ofList (beforeCursor (callTo "an") none)) = .ok q ∧
        Ranking q calls "an" juanAndAna placed ∧
        [suggested "p2" "Ana", suggested "p1" "Juan"] =
          (placed.take (max 0 8 : Int).toNat).map (Suggestion.ofItem calls ·.1) := by
  have hsuggest : suggest (callTo "an") calls juanAndAna 8 none =
      some ⟨27, [suggested "p2" "Ana", suggested "p1" "Juan"], "gente", "an"⟩ := by
    have hlink : juanAndAna.filter (mayLink ((callProgress "an").property? calls)) =
        juanAndAna := by
      decide +kernel
    have hstart : itemStart (beforeCursor (callTo "an") none) 26 = 27 := by
      decide +kernel
    have htyped : withoutSign ((beforeCursor (callTo "an") none).drop 27) = ['a', 'n'] := by
      decide +kernel
    rw [suggest_callTo_an, Progress.suggestions, hlink]
    simp only [callProgress, hstart, htyped, ranked_juanAndAna]
    decide +kernel
  obtain ⟨q, placed, hscan, hranking, hitems, -⟩ := suggest_ranking hsuggest
  exact ⟨hsuggest, q, placed, hscan, hranking, hitems⟩

end Cuaderno.QuickEntry
