import Cuaderno.Proofs.QuickEntry.Target

/-!
# No title by accident

A typed title is looked for twice, among the items of the type that a relation is restricted to and
then among all items (`Chosen`). Each time the first item with just that title counts, or else the
only one whose title contains it (`Singles`). So an item is never meant because it happens to come
first: either nobody else is like it in the list that it was chosen from, or its title was typed in
full. When no title comes twice, the order of the items makes no difference (`chosen_perm`).
-/

namespace Cuaderno.QuickEntry

def titleKey (item : Item) : List Char := Text.fold item.title.toList

/-- Whether the title of an item contains a key. -/
def Mentions (k : List Char) (item : Item) : Prop := k <:+: titleKey item

/-- Whether an item is the only one of a list whose title contains a key. -/
def OnlyMention (k : List Char) (candidates : List Item) (item : Item) : Prop :=
  ∃ before after, candidates = before ++ item :: after ∧ Mentions k item ∧
    ∀ other ∈ before ++ after, ¬ Mentions k other

/-- Which item a key means among some candidates: the first with just that title, or the only one
whose title contains it. -/
inductive Singles (k : List Char) (candidates : List Item) (item : Item) : Prop
  | exact {before after : List Item} (split : candidates = before ++ item :: after)
      (title : titleKey item = k) (first : ∀ other ∈ before, titleKey other ≠ k)
  | part (none : ∀ other ∈ candidates, titleKey other ≠ k) (only : OnlyMention k candidates item)

/-- Which item a key means as the target of a relation, and in which list. -/
inductive Chosen (k : List Char) (p : Property) (items : List Item) : List Item → Item → Prop
  | compatible {item : Item} (restricted : p.target.isPresent = true)
      (singles : Singles k (compatible p items) item) :
      Chosen k p items (compatible p items) item
  | anywhere {item : Item}
      (none : p.target.isPresent = true → ∀ other, ¬ Singles k (compatible p items) other)
      (singles : Singles k items item) : Chosen k p items items item

variable {k : List Char} {p : Property} {candidates others items : List Item} {item : Item}

theorem onlyMention_iff : OnlyMention k candidates item ↔
    candidates.filter (fun c => Text.occursIn k (Text.fold c.title.toList)) = [item] := by
  rw [List.filter_eq_cons_iff]
  constructor
  · rintro ⟨before, after, hsplit, hmentions, hother⟩
    refine ⟨before, after, hsplit, fun o ho => ?_, Text.occursIn_iff.2 hmentions, ?_⟩
    · rw [Text.occursIn_iff]
      exact hother o (List.mem_append_left _ ho)
    · rw [List.filter_eq_nil_iff]
      intro o ho
      rw [Text.occursIn_iff]
      exact hother o (List.mem_append_right _ ho)
  · rintro ⟨before, after, hsplit, hbefore, hitem, hafter⟩
    refine ⟨before, after, hsplit, Text.occursIn_iff.1 hitem, fun o ho hmentions => ?_⟩
    rcases List.mem_append.1 ho with ho | ho
    · exact hbefore o ho (Text.occursIn_iff.2 hmentions)
    · exact List.filter_eq_nil_iff.1 hafter o ho (Text.occursIn_iff.2 hmentions)

private theorem itemTitled?_iff_singles {fragment : List Char} :
    itemTitled? candidates fragment = some item ↔
      Text.fold fragment ≠ [] ∧ Singles (Text.fold fragment) candidates item := by
  rw [itemTitled?_eq_some, ← onlyMention_iff]
  apply and_congr_right
  intro _
  constructor
  · rintro (hfound | ⟨hnone, honly⟩)
    · obtain ⟨htitle, before, after, hsplit, hfirst⟩ := List.find?_eq_some_iff_append.1 hfound
      exact .exact hsplit (beq_iff_eq.1 htitle) fun o ho => by simpa [titleKey] using hfirst o ho
    · exact .part (fun o ho => by simpa [titleKey] using List.find?_eq_none.1 hnone o ho) honly
  · rintro (⟨hsplit, htitle, hfirst⟩ | ⟨hnone, honly⟩)
    · refine .inl (List.find?_eq_some_iff_append.2 ⟨beq_iff_eq.2 htitle, _, _, hsplit, ?_⟩)
      exact fun o ho => by simpa [titleKey] using hfirst o ho
    · exact .inr ⟨List.find?_eq_none.2 fun o ho => by simpa [titleKey] using hnone o ho, honly⟩

private theorem target?_iff_chosen {fragment : String} : target? fragment p items = some item ↔
    Text.fold (withoutSign fragment.toList) ≠ [] ∧
      ∃ list, Chosen (Text.fold (withoutSign fragment.toList)) p items list item := by
  simp only [target?]
  split
  · rename_i hrestricted
    split
    · rename_i found hfound
      obtain ⟨hne, hsingles⟩ := itemTitled?_iff_singles.1 hfound
      constructor
      · intro h
        cases h
        exact ⟨hne, _, .compatible hrestricted hsingles⟩
      · rintro ⟨-, list, ⟨-, h⟩ | ⟨hnone, -⟩⟩
        · rw [← hfound]
          exact itemTitled?_iff_singles.2 ⟨hne, h⟩
        · exact absurd hsingles (hnone hrestricted found)
    · rename_i hnone
      rw [itemTitled?_iff_singles]
      apply and_congr_right
      intro hne
      have hcompatible (other : Item) :
          ¬ Singles (Text.fold (withoutSign fragment.toList)) (compatible p items) other := by
        intro h
        rw [itemTitled?_iff_singles.2 ⟨hne, h⟩] at hnone
        cases hnone
      constructor
      · exact fun h => ⟨_, .anywhere (fun _ => hcompatible) h⟩
      · rintro ⟨list, ⟨-, h⟩ | ⟨-, h⟩⟩
        · exact absurd h (hcompatible item)
        · exact h
  · rename_i hfree
    rw [itemTitled?_iff_singles]
    apply and_congr_right
    intro _
    constructor
    · exact fun h => ⟨_, .anywhere (fun h => absurd h hfree) h⟩
    · rintro ⟨list, ⟨h, -⟩ | ⟨-, h⟩⟩
      · exact absurd h hfree
      · exact h

theorem Singles.mem (h : Singles k candidates item) : item ∈ candidates := by
  rcases h with ⟨rfl, -, -⟩ | ⟨-, before, after, rfl, -, -⟩
  · simp
  · simp

theorem Singles.mentions (h : Singles k candidates item) : Mentions k item := by
  rcases h with ⟨-, rfl, -⟩ | ⟨-, before, after, -, hmentions, -⟩
  · exact List.infix_refl (titleKey item)
  · exact hmentions

theorem Singles.title_or_only (h : Singles k candidates item) :
    titleKey item = k ∨ OnlyMention k candidates item := by
  rcases h with ⟨-, htitle, -⟩ | ⟨-, honly⟩
  · exact .inl htitle
  · exact .inr honly

private theorem exists_singles_of_title (hmem : item ∈ candidates) (htitle : titleKey item = k) :
    ∃ other, Singles k candidates other := by
  have hsome : (candidates.find? (titleKey · == k)).isSome := by
    rw [List.find?_isSome]
    exact ⟨item, hmem, beq_iff_eq.2 htitle⟩
  obtain ⟨other, hother⟩ := Option.isSome_iff_exists.1 hsome
  obtain ⟨hk, before, after, hsplit, hfirst⟩ := List.find?_eq_some_iff_append.1 hother
  exact ⟨other, .exact hsplit (beq_iff_eq.1 hk) fun o ho => by simpa using hfirst o ho⟩

private theorem exists_singles_of_only (h : OnlyMention k candidates item) :
    ∃ other, Singles k candidates other := by
  by_cases htitled : ∃ other ∈ candidates, titleKey other = k
  · obtain ⟨other, hmem, htitle⟩ := htitled
    exact exists_singles_of_title hmem htitle
  · exact ⟨item, .part (fun other hmem htitle => htitled ⟨other, hmem, htitle⟩) h⟩

/-- What entitles a key to mean an item, chosen from a list. -/
structure Warranted (k : List Char) (p : Property) (items list : List Item) (item : Item) :
    Prop where
  mem : item ∈ items
  source : p.target.isPresent = true ∧ list = compatible p items ∨ list = items
  contains : Mentions k item
  title_or_only : titleKey item = k ∨ OnlyMention k list item
  /-- Among the items of the type that the relation is restricted to, none was entitled. -/
  outside : p.target.isPresent = true → p.target ≠ .text item.typeId →
    (∀ other ∈ compatible p items, titleKey other ≠ k) ∧
      ∀ other, ¬ OnlyMention k (compatible p items) other

theorem Chosen.warranted {list : List Item} (h : Chosen k p items list item) :
    Warranted k p items list item := by
  cases h with
  | compatible hrestricted hsingles =>
    obtain ⟨hmem, htype⟩ := List.mem_filter.1 hsingles.mem
    exact {
      mem := hmem
      source := .inl ⟨hrestricted, rfl⟩
      contains := hsingles.mentions
      title_or_only := hsingles.title_or_only
      outside := fun _ hother => absurd (of_decide_eq_true htype) hother }
  | anywhere hnone hsingles =>
    exact {
      mem := hsingles.mem
      source := .inr rfl
      contains := hsingles.mentions
      title_or_only := hsingles.title_or_only
      outside := by
        intro hrestricted _
        constructor
        · intro other hmem htitle
          obtain ⟨found, hfound⟩ := exists_singles_of_title hmem htitle
          exact hnone hrestricted found hfound
        · intro other honly
          obtain ⟨found, hfound⟩ := exists_singles_of_only honly
          exact hnone hrestricted found hfound }

theorem OnlyMention.perm (h : OnlyMention k candidates item) (hperm : candidates.Perm others) :
    OnlyMention k others item := by
  obtain ⟨before, after, rfl, hmentions, hother⟩ := h
  obtain ⟨front, back, rfl⟩ := List.append_of_mem (hperm.subset (by simp : item ∈ _))
  have hrest : (before ++ after).Perm (front ++ back) :=
    ((List.perm_middle.symm.trans hperm).trans List.perm_middle).cons_inv
  exact ⟨front, back, rfl, hmentions, fun o ho => hother o (hrest.symm.subset ho)⟩

theorem Singles.perm (h : Singles k candidates item) (hperm : candidates.Perm others)
    (hdistinct : (candidates.map titleKey).Nodup) : Singles k others item := by
  have hmem : item ∈ others := hperm.subset h.mem
  cases h with
  | exact _ htitle _ =>
    obtain ⟨front, back, rfl⟩ := List.append_of_mem hmem
    refine .exact rfl htitle fun o ho hsame => ?_
    -- the title would come twice, in front of the item and as its own
    have hnodup : ((front ++ item :: back).map titleKey).Nodup :=
      (hperm.map titleKey).nodup_iff.1 hdistinct
    rw [List.map_append, List.map_cons, List.nodup_append] at hnodup
    exact hnodup.2.2 _ (List.mem_map_of_mem ho) _ List.mem_cons_self (hsame.trans htitle.symm)
  | part hnone honly =>
    exact .part (fun o ho => hnone o (hperm.symm.subset ho)) (honly.perm hperm)

theorem chosen_perm (hperm : items.Perm others) (hdistinct : (items.map titleKey).Nodup)
    (h : ∃ list, Chosen k p items list item) : ∃ list, Chosen k p others list item := by
  have hcompatible : (compatible p items).Perm (compatible p others) := hperm.filter _
  have hothers : (others.map titleKey).Nodup := (hperm.map titleKey).nodup_iff.1 hdistinct
  obtain ⟨list, ⟨hrestricted, hsingles⟩ | ⟨hnone, hsingles⟩⟩ := h
  · have hnodup : ((compatible p items).map titleKey).Nodup :=
      hdistinct.sublist (List.filter_sublist.map titleKey)
    exact ⟨_, .compatible hrestricted (hsingles.perm hcompatible hnodup)⟩
  · refine ⟨_, .anywhere (fun hrestricted other hother => ?_) (hsingles.perm hperm hdistinct)⟩
    have hnodup : ((compatible p others).map titleKey).Nodup :=
      hothers.sublist (List.filter_sublist.map titleKey)
    exact hnone hrestricted other (hother.perm hcompatible.symm hnodup)

/-- A typed title means the item that its key singles out, among the items that the relation is
restricted to or else among all. What it means contains the key; it has just that title, or is the
only one in its list to contain it. An item of another type is meant only if no item of the type is
entitled. When no title comes twice, the order of the items makes no difference. -/
theorem target?_never_by_accident (fragment : String) (p : Property) (items : List Item) :
    (∀ item, target? fragment p items = some item ↔
      Text.fold (withoutSign fragment.toList) ≠ [] ∧
        ∃ list, Chosen (Text.fold (withoutSign fragment.toList)) p items list item) ∧
    (∀ item, target? fragment p items = some item →
      ∃ list, Warranted (Text.fold (withoutSign fragment.toList)) p items list item) ∧
    ((items.map titleKey).Nodup → ∀ others, items.Perm others →
      target? fragment p others = target? fragment p items) := by
  refine ⟨fun item => target?_iff_chosen, fun item h => ?_, fun hdistinct others hperm => ?_⟩
  · obtain ⟨-, list, hchosen⟩ := target?_iff_chosen.1 h
    exact ⟨list, hchosen.warranted⟩
  · have hothers : (others.map titleKey).Nodup := (hperm.map titleKey).nodup_iff.1 hdistinct
    apply Option.ext
    intro item
    rw [target?_iff_chosen, target?_iff_chosen]
    exact and_congr_right fun _ =>
      ⟨chosen_perm hperm.symm hothers, chosen_perm hperm hdistinct⟩

end Cuaderno.QuickEntry
