import Cuaderno.Proofs.Search.Grouped
import Cuaderno.Proofs.Text.Folding
import Cuaderno.Search.Tags

/-!
# The inventory of tags

The tags of a notebook are listed once for each key, however they are spelled (`allTags_inventory`).
What is listed is a spelling that occurs: the most frequent one of its key, and of several the one
that comes first. A spelling is a tag without outer blanks, and has the key of the tag, so that the
spellings of one key can be counted among all of them.
-/

namespace Cuaderno.Search

section MostFrequent

variable {texts : List String} {a b t : String}

/-- Whether a text occurs more often than another, or as often and no later. -/
def Leads (texts : List String) (a b : String) : Prop :=
  texts.count b < texts.count a ∨
    texts.count b = texts.count a ∧ texts.idxOf a ≤ texts.idxOf b

theorem Leads.refl (texts : List String) (a : String) : Leads texts a a :=
  .inr ⟨rfl, Nat.le_refl _⟩

theorem Leads.trans {c : String} (hab : Leads texts a b) (hbc : Leads texts b c) :
    Leads texts a c := by
  unfold Leads at *
  omega

def better (texts : List String) (best : Option String) (text : String) : Option String :=
  match best with
  | some b => if texts.count b < texts.count text then some text else some b
  | none => some text

/-- Whether a text is the best of some texts: one of them, and ahead of all. -/
def IsBest (texts seen : List String) : Option String → Prop
  | some t => t ∈ seen ∧ ∀ s ∈ seen, Leads texts t s
  | none => seen = []

theorem IsBest.better {seen : List String} {best : Option String} (h : IsBest texts seen best)
    (hlast : ∀ s ∈ seen, texts.idxOf s < texts.idxOf t) :
    IsBest texts (seen ++ [t]) (better texts best t) := by
  cases best with
  | none =>
    obtain rfl : seen = [] := h
    refine ⟨List.mem_singleton_self t, fun s hs => ?_⟩
    rw [List.mem_singleton.1 hs]
    exact .refl texts t
  | some b =>
    obtain ⟨hmem, hleads⟩ := h
    have hfirst := hlast b hmem
    by_cases hmore : texts.count b < texts.count t
    · rw [Search.better, if_pos hmore]
      refine ⟨List.mem_append_right _ (List.mem_singleton_self t), fun s hs => ?_⟩
      rcases List.mem_append.1 hs with hs | hs
      · exact Leads.trans (.inl hmore) (hleads s hs)
      · rw [List.mem_singleton.1 hs]
        exact .refl texts t
    · rw [Search.better, if_neg hmore]
      refine ⟨List.mem_append_left _ hmem, fun s hs => ?_⟩
      rcases List.mem_append.1 hs with hs | hs
      · exact hleads s hs
      · rw [List.mem_singleton.1 hs]
        unfold Leads
        omega

/-- The last best text is the best of all, when they come in the order of their first places. -/
theorem isBest_foldl {seen : List String}
    (h : seen.Pairwise fun a b => texts.idxOf a < texts.idxOf b) :
    IsBest texts seen (seen.foldl (better texts) none) := by
  induction seen using List.reverseRecOn with
  | nil => rfl
  | append_singleton seen t ih =>
    obtain ⟨hbefore, -, hlast⟩ := List.pairwise_append.1 h
    rw [List.foldl_append]
    exact (ih hbefore).better fun s hs => hlast s hs t (List.mem_singleton_self t)

private theorem exists_mostFrequent? (h : texts ≠ []) :
    ∃ t, mostFrequent? texts = some t ∧ t ∈ texts ∧ ∀ s ∈ texts, Leads texts t s := by
  have hbest := isBest_foldl (Sorting.pairwise_eraseDups texts)
  rw [← distinct_eq] at hbest
  change IsBest texts (distinct texts) (mostFrequent? texts) at hbest
  cases ht : mostFrequent? texts with
  | none =>
    rw [ht, distinct_eq] at hbest
    obtain ⟨s, hs⟩ := List.exists_mem_of_ne_nil texts h
    have hnone : s ∈ texts.eraseDups := List.mem_eraseDups.2 hs
    rw [hbest] at hnone
    cases hnone
  | some t =>
    rw [ht, distinct_eq] at hbest
    obtain ⟨hmem, hleads⟩ := hbest
    exact ⟨t, rfl, List.mem_eraseDups.1 hmem, fun s hs => hleads s (List.mem_eraseDups.2 hs)⟩

end MostFrequent

def tagsOf (items : List Item) : List String := items.flatMap (·.tags)

def spelling (tag : String) : String := String.ofList (Text.trim tag.toList)

def spellings (items : List Item) : List String := (tagsOf items).map spelling

def uses (items : List Item) (key : String) : Nat := ((tagsOf items).map Text.key).count key

variable {items : List Item} {k : String}

private theorem key_spelling (tag : String) : Text.key (spelling tag) = Text.key tag := by
  rw [Text.key, spelling, String.toList_ofList, Text.fold_trim, Text.key]

private theorem taggings_eq (items : List Item) :
    taggings items = (spellings items).filter fun s => Text.key s != "" := by
  rw [spellings, List.filter_map]
  have hkeys : (fun s => Text.key s != "") ∘ spelling = fun tag => Text.key tag != "" := by
    funext tag
    rw [Function.comp_apply, key_spelling]
  rw [hkeys]
  rfl

private theorem map_key_spellings (items : List Item) :
    (spellings items).map Text.key = (tagsOf items).map Text.key := by
  rw [spellings, List.map_map]
  exact List.map_congr_left fun tag _ => key_spelling tag

private theorem map_key_taggings (items : List Item) :
    (taggings items).map Text.key = ((tagsOf items).map Text.key).filter (· != "") := by
  rw [← map_key_spellings, List.filter_map, taggings_eq, Function.comp_def]

/-- The spellings of one key. -/
theorem filter_taggings (hk : k ≠ "") :
    (taggings items).filter (Text.key · == k) = (spellings items).filter (Text.key · == k) := by
  rw [taggings_eq, List.filter_filter]
  refine List.filter_congr fun s _ => ?_
  by_cases hs : Text.key s = k
  · rw [hs, bne_iff_ne.2 hk, Bool.and_true]
  · rw [beq_eq_false_iff_ne.2 hs, Bool.false_and]

/-- The spelling that a key is listed with: one that occurs, no other one of the key occurs more
often, and none that occurs as often comes before it. -/
structure Represents (items : List Item) (k t : String) : Prop where
  mem : t ∈ spellings items
  key : Text.key t = k
  leads : ∀ s ∈ spellings items, Text.key s = k → Leads (spellings items) t s

/-- Among the spellings of a key one leads exactly when it does among all spellings. -/
theorem leads_filter_iff {texts : List String} {a b : String} (ha : Text.key a = k)
    (hb : Text.key b = k) :
    Leads (texts.filter (Text.key · == k)) a b ↔ Leads texts a b := by
  rw [Leads, List.count_filter (by rw [hb, beq_self_eq_true]),
    List.count_filter (by rw [ha, beq_self_eq_true]),
    Sorting.idxOf_filter_le_iff (by rw [ha, beq_self_eq_true]) (by rw [hb, beq_self_eq_true]),
    Leads]

def listed? (items : List Item) (k : String) : Option String :=
  mostFrequent? ((taggings items).filter (Text.key · == k))

private theorem exists_represents (hk : k ≠ "") (h : ∃ tag ∈ tagsOf items, Text.key tag = k) :
    ∃ t, listed? items k = some t ∧ Represents items k t := by
  obtain ⟨tag, htag, hkey⟩ := h
  have hmem {s : String} : s ∈ (spellings items).filter (Text.key · == k) ↔
      s ∈ spellings items ∧ Text.key s = k := by
    rw [List.mem_filter, beq_iff_eq]
  have hown : spelling tag ∈ (spellings items).filter (Text.key · == k) :=
    hmem.2 ⟨List.mem_map_of_mem htag, by rw [key_spelling, hkey]⟩
  obtain ⟨t, ht, hclass, hleads⟩ := exists_mostFrequent? (List.ne_nil_of_mem hown)
  rw [listed?, filter_taggings hk]
  obtain ⟨hspelling, htkey⟩ := hmem.1 hclass
  refine ⟨t, ht, hspelling, htkey, fun s hs hskey => ?_⟩
  exact (leads_filter_iff htkey hskey).1 (hleads s (hmem.2 ⟨hs, hskey⟩))

/-- The keys of the tags of some items, in the order in which they are listed. -/
def tagKeys (items : List Item) : List String :=
  (distinct ((taggings items).map Text.key)).mergeSort (tagOrder ((taggings items).map Text.key))

private theorem allTags_eq (items : List Item) :
    allTags items = (tagKeys items).filterMap (listed? items) := rfl

theorem perm_tagKeys (items : List Item) :
    (tagKeys items).Perm ((taggings items).map Text.key).eraseDups := by
  rw [← distinct_eq]
  exact List.mergeSort_perm _ _

private theorem mem_tagKeys :
    k ∈ tagKeys items ↔ k ≠ "" ∧ ∃ tag ∈ tagsOf items, Text.key tag = k := by
  rw [(perm_tagKeys items).mem_iff, List.mem_eraseDups, map_key_taggings, List.mem_filter,
    List.mem_map, bne_iff_ne, and_comm]

private theorem count_taggings (hk : k ≠ "") :
    ((taggings items).map Text.key).count k = uses items k := by
  rw [map_key_taggings, uses]
  exact List.count_filter (bne_iff_ne.2 hk)

theorem orders_tagOrder (keys : List String) : Sorting.Orders (tagOrder keys) fun _ => True :=
  Sorting.orders_text.behind (fun k => keys.count k) (fun m n => decide (n < m))
    (fun _ _ _ hlm hmn => by
      simp only [decide_eq_true_eq] at *
      omega)
    fun m n => by
      simp only [decide_eq_true_eq]
      omega

private theorem pairwise_tagKeys (items : List Item) : (tagKeys items).Pairwise fun a b =>
    uses items b < uses items a ∨ uses items b = uses items a ∧ a < b := by
  have hsorted : (tagKeys items).Pairwise fun a b =>
      tagOrder ((taggings items).map Text.key) a b = true ∧ a ≠ b := by
    rw [tagKeys, distinct_eq]
    exact (orders_tagOrder _).pairwise_mergeSort_of_nodup (fun _ _ => trivial)
      (Sorting.nodup_eraseDups _) fun a b hab hne => ⟨hab, hne⟩
  refine hsorted.imp_of_mem fun {a b} ha hb ⟨hab, hne⟩ => ?_
  simp only [tagOrder, count_taggings (mem_tagKeys.1 ha).1, count_taggings (mem_tagKeys.1 hb).1,
    Bool.or_eq_true, Bool.and_eq_true, decide_eq_true_eq] at hab
  exact hab.imp_right fun ⟨heq, hle⟩ => ⟨heq.symm, Sorting.lt_of_text_le hle hne⟩

private theorem mem_allTags {t : String} (h : t ∈ allTags items) :
    Represents items (Text.key t) t := by
  rw [allTags_eq, List.mem_filterMap] at h
  obtain ⟨k, hk, ht⟩ := h
  obtain ⟨hne, htag⟩ := mem_tagKeys.1 hk
  obtain ⟨own, hown, hrepresents⟩ := exists_represents hne htag
  rw [hown] at ht
  cases ht
  rw [hrepresents.key]
  exact hrepresents

private theorem map_key_allTags (items : List Item) :
    (allTags items).map Text.key = tagKeys items := by
  have hall {ks : List String} (hks : ∀ k ∈ ks, k ∈ tagKeys items) :
      (ks.filterMap (listed? items)).map Text.key = ks := by
    induction ks with
    | nil => rfl
    | cons k ks ih =>
      obtain ⟨hne, htag⟩ := mem_tagKeys.1 (hks k List.mem_cons_self)
      obtain ⟨t, ht, hrepresents⟩ := exists_represents hne htag
      rw [List.filterMap_cons_some ht, List.map_cons, hrepresents.key,
        ih fun k hk => hks k (List.mem_cons_of_mem _ hk)]
  rw [allTags_eq, hall fun k hk => hk]

/-- The tags of some items are listed once for each key that is not empty. They are in the order of
how often they occur in any spelling, the most frequent first, and then of their keys. Each is
listed in a spelling that occurs, no spelling with its key occurs more often, and none of those that
occur as often comes first at an earlier place. -/
theorem allTags_inventory (items : List Item) :
    ((allTags items).map Text.key).Nodup ∧
    (∀ k, k ∈ (allTags items).map Text.key ↔
      k ≠ "" ∧ ∃ item ∈ items, ∃ tag ∈ item.tags, Text.key tag = k) ∧
    ((allTags items).Pairwise fun a b =>
      uses items (Text.key b) < uses items (Text.key a) ∨
        uses items (Text.key b) = uses items (Text.key a) ∧ Text.key a < Text.key b) ∧
    ∀ t ∈ allTags items, t ∈ spellings items ∧
      ∀ s ∈ spellings items, Text.key s = Text.key t →
        (spellings items).count s < (spellings items).count t ∨
          (spellings items).count s = (spellings items).count t ∧
            (spellings items).idxOf t ≤ (spellings items).idxOf s := by
  refine ⟨?_, fun k => ?_, ?_, fun t ht => ?_⟩
  · rw [map_key_allTags]
    exact (perm_tagKeys items).nodup_iff.2 (Sorting.nodup_eraseDups _)
  · rw [map_key_allTags, mem_tagKeys]
    simp only [tagsOf, List.mem_flatMap]
    refine and_congr_right fun _ => ?_
    constructor
    · rintro ⟨tag, ⟨item, hitem, htag⟩, hkey⟩
      exact ⟨item, hitem, tag, htag, hkey⟩
    · rintro ⟨item, hitem, tag, htag, hkey⟩
      exact ⟨tag, ⟨item, hitem, htag⟩, hkey⟩
  · rw [← List.pairwise_map (f := Text.key) (R := fun a b =>
      uses items b < uses items a ∨ uses items b = uses items a ∧ a < b), map_key_allTags]
    exact pairwise_tagKeys items
  · exact ⟨(mem_allTags ht).mem, (mem_allTags ht).leads⟩

end Cuaderno.Search
