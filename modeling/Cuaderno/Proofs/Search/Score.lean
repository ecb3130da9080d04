import Cuaderno.Proofs.Number.Exact
import Cuaderno.Proofs.Text.Folding
import Cuaderno.Search.Ranking
import Mathlib.Algebra.Ring.Nat
import Mathlib.Data.List.Forall2
import Mathlib.Order.Bounds.Basic

/-!
# What a term counts

With the default weights a term counts what the best of its places in an item counts, whatever the
other places are. The main theorem, `score_spec`, says that looking for terms finds exactly the
items in which each of them has a place, and adds up what they count.
-/

namespace Cuaderno.Search

open Cuaderno.Text (IsTerm fold foldChar foldChars foldIndexed)

/-- Whether a folded term occurs in a text. -/
def Occurs (term : String) (text : List Char) : Prop := term.toList <:+: fold text

/-- Whether the first place of a folded term in a text comes from the first character: a place that
starts among the characters to which that one folds. -/
def Opens (term : String) (text : List Char) : Prop :=
  ∃ c rest before after, text = c :: rest ∧ foldChar c = before ++ after ∧ after ≠ [] ∧
    term.toList <+: after ++ foldChars rest

/-- What a folded term can count in an item, by one of its places. -/
inductive Counts (item : Item) (term : String) : Nat → Prop where
  | titleStart (h : Opens term (Text.trim item.title.toList)) : Counts item term 12
  | title (h : Occurs term item.title.toList) : Counts item term 10
  | tag {tag} (mem : tag ∈ item.tags) (h : Occurs term tag.toList) : Counts item term 6
  | property {id v} (mem : (id, v) ∈ item.properties) (h : Occurs term v.display.toList) :
      Counts item term 4
  | content (h : Occurs term (Text.plainText item.content.toList)) : Counts item term 2

/-- What the best place of a folded term in an item counts. -/
def Best (item : Item) (term : String) (n : Nat) : Prop := IsGreatest { n | Counts item term n } n

variable {term : String} {text : List Char}

theorem locate?_isSome_iff (ht : IsTerm term.toList) :
    (locate? term.toList text).isSome = true ↔ Occurs term text := by
  rw [locate?_isSome, Text.occursIn_iff, Occurs, ht.infix_fold]

/-- The characters to which the first one folds come first, and those of the others point behind
it. -/
theorem origin_foldIndexed_cons {c : Char} {rest : List Char} {i : Nat}
    (h : i < (foldChars (c :: rest)).length) :
    ∃ d k, (foldIndexed (c :: rest))[i]? = some (d, k) ∧ (k = 0 ↔ i < (foldChar c).length) := by
  have hlen : i < (foldIndexed (c :: rest)).length := by rwa [Text.length_foldIndexed]
  have hsplit : foldIndexed (c :: rest) = (foldChar c).map (·, 0) ++
      (rest.zipIdx 1).flatMap fun p => (foldChar p.1).map (·, p.2) := by
    rw [foldIndexed, List.zipIdx_cons, List.flatMap_cons]
  by_cases hi : i < (foldChar c).length
  · refine ⟨(foldChar c)[i], 0, ?_, by simpa using hi⟩
    rw [hsplit, List.getElem?_append_left (by simpa using hi)]
    simp [hi]
  · obtain ⟨⟨d, k⟩, hdk⟩ : ∃ p, (foldIndexed (c :: rest))[i] = p := ⟨_, rfl⟩
    refine ⟨d, k, by rw [List.getElem?_eq_getElem hlen, hdk], ?_⟩
    have hmem : (d, k) ∈ (rest.zipIdx 1).flatMap fun p => (foldChar p.1).map (·, p.2) := by
      rw [← hdk]
      simp only [hsplit]
      rw [List.getElem_append_right (by simpa using hi)]
      exact List.getElem_mem _
    simp only [List.mem_flatMap, List.mem_map, Prod.mk.injEq] at hmem
    obtain ⟨⟨e, j⟩, hj, _, _, _, rfl⟩ := hmem
    have := List.mem_zipIdx hj
    constructor
    · intro hk
      omega
    · intro hi'
      exact absurd hi' hi

/-- The first place of a term comes from the first character of a text exactly when it opens it. -/
theorem locate?_start_eq_zero (ht : IsTerm term.toList) {start stop : Nat}
    (h : locate? term.toList text = some (start, stop)) : start = 0 ↔ Opens term text := by
  simp only [locate?, Text.map_fst_foldIndexed, Option.map_eq_some_iff, Prod.mk.injEq] at h
  obtain ⟨i, hi, hstart, -⟩ := h
  obtain ⟨hhere, hfirst⟩ := Text.indexOf?_eq_some hi
  have hlt : i < (foldChars text).length := by
    by_contra hge
    rw [List.drop_eq_nil_of_le (by omega), List.prefix_nil] at hhere
    exact ht.ne_nil hhere
  cases text with
  | nil => simp at hlt
  | cons c rest =>
    obtain ⟨d, k, hk, hzero⟩ := origin_foldIndexed_cons hlt
    rw [hk] at hstart
    have hks : k = start := by simpa using hstart
    rw [← hks, hzero]
    constructor
    · intro hin
      refine ⟨c, rest, (foldChar c).take i, (foldChar c).drop i, rfl, ?_, ?_, ?_⟩
      · rw [List.take_append_drop]
      · intro hnil
        rw [List.drop_eq_nil_iff] at hnil
        omega
      · rwa [Text.foldChars_cons, List.drop_append_of_le_length (by omega)] at hhere
    · rintro ⟨_, _, before, after, heq, hc, hne, hp⟩
      obtain ⟨rfl, rfl⟩ := List.cons.inj heq
      have hlen : before.length < (foldChar c).length := by
        rw [hc, List.length_append]
        have := List.length_pos_iff.2 hne
        omega
      have hplace : term.toList <+: (foldChars (c :: rest)).drop before.length := by
        rw [Text.foldChars_cons, hc, List.append_assoc, List.drop_left]
        exact hp
      have hle : i ≤ before.length := by
        by_contra hgt
        exact hfirst before.length (by omega) hplace
      omega

section Fields

variable {item : Item} {w : Weights} {hit : Hit} {title : String}

private theorem wholeMatch_eq_none {field : MatchField} {s : String} {id : Option String}
    (ht : IsTerm term.toList) :
    wholeMatch field term s id = none ↔ ¬ Occurs term s.toList := by
  rw [wholeMatch, Option.map_eq_none_iff, ← locate?_isSome_iff ht, Option.not_isSome_iff_eq_none]

theorem titleHit?_eq_none (ht : IsTerm term.toList) :
    titleHit? w title term = none ↔ ¬ Occurs term title.toList := by
  rw [titleHit?, Option.map_eq_none_iff, wholeMatch_eq_none ht, String.toList_ofList, Occurs,
    ht.infix_fold, ht.infix_foldChars_trim, ← ht.infix_fold, Occurs]

/-- A title that a term opens counts more, whatever the weights are. -/
theorem titleHit?_weight (ht : IsTerm term.toList) (h : titleHit? w title term = some hit) :
    (Opens term (Text.trim title.toList) ∧ hit.weight = w.title.add w.titleStart) ∨
      (¬ Opens term (Text.trim title.toList) ∧ hit.weight = w.title) := by
  simp only [titleHit?, wholeMatch, String.toList_ofList, Option.map_map,
    Option.map_eq_some_iff, Function.comp_apply] at h
  obtain ⟨⟨start, stop⟩, hplace, rfl⟩ := h
  have hopens := locate?_start_eq_zero ht hplace
  by_cases hs : start = 0
  · refine .inl ⟨hopens.1 hs, ?_⟩
    simp only [hs, Int.natCast_zero, if_true]
  · refine .inr ⟨fun ho => hs (hopens.2 ho), ?_⟩
    simp only [Int.natCast_eq_zero, if_neg hs]

theorem titleHit?_eq_some (ht : IsTerm term.toList) (h : titleHit? {} title term = some hit) :
    (Opens term (Text.trim title.toList) ∧ hit.weight = Number.ofNat 12) ∨
      (¬ Opens term (Text.trim title.toList) ∧ hit.weight = Number.ofNat 10) := by
  rcases titleHit?_weight ht h with ⟨hopens, hw⟩ | ⟨hopens, hw⟩
  · exact .inl ⟨hopens, hw.trans (Number.add_ofNat (by decide))⟩
  · exact .inr ⟨hopens, hw⟩

theorem titleHit?_occurs (ht : IsTerm term.toList) (h : titleHit? w title term = some hit) :
    Occurs term title.toList := by
  by_contra hnot
  rw [(titleHit?_eq_none ht).2 hnot] at h
  cases h

theorem tagHit?_eq_none (ht : IsTerm term.toList) :
    tagHit? w item.tags term = none ↔ ∀ tag ∈ item.tags, ¬ Occurs term tag.toList := by
  simp only [tagHit?, List.findSome?_eq_none_iff, Option.map_eq_none_iff, wholeMatch_eq_none ht]

theorem tagHit?_occurs (ht : IsTerm term.toList) (h : tagHit? w item.tags term = some hit) :
    ∃ tag ∈ item.tags, Occurs term tag.toList := by
  by_contra hnot
  rw [(tagHit?_eq_none ht).2 fun tag mem hin => hnot ⟨tag, mem, hin⟩] at h
  cases h

theorem tagHit?_weight (h : tagHit? w item.tags term = some hit) : hit.weight = w.tag := by
  obtain ⟨tag, -, htag⟩ := List.exists_of_findSome?_eq_some h
  obtain ⟨m, -, rfl⟩ := Option.map_eq_some_iff.1 htag
  rfl

theorem propertyHit?_eq_none (ht : IsTerm term.toList) :
    propertyHit? w item.properties term = none ↔
      ∀ p ∈ item.properties, ¬ Occurs term p.2.display.toList := by
  simp only [propertyHit?, List.findSome?_eq_none_iff, Option.map_eq_none_iff,
    wholeMatch_eq_none ht]

theorem propertyHit?_occurs (ht : IsTerm term.toList)
    (h : propertyHit? w item.properties term = some hit) :
    ∃ p ∈ item.properties, Occurs term p.2.display.toList := by
  by_contra hnot
  rw [(propertyHit?_eq_none ht).2 fun p mem hin => hnot ⟨p, mem, hin⟩] at h
  cases h

theorem propertyHit?_weight (h : propertyHit? w item.properties term = some hit) :
    hit.weight = w.property := by
  obtain ⟨p, -, hp⟩ := List.exists_of_findSome?_eq_some h
  obtain ⟨m, -, rfl⟩ := Option.map_eq_some_iff.1 hp
  rfl

theorem contentHit?_eq_none {plain : List Char} (ht : IsTerm term.toList) :
    contentHit? w plain term = none ↔ ¬ Occurs term plain := by
  rw [contentHit?, Option.map_eq_none_iff, ← locate?_isSome_iff ht, Option.not_isSome_iff_eq_none]

theorem contentHit?_occurs {plain : List Char} (ht : IsTerm term.toList)
    (h : contentHit? w plain term = some hit) : Occurs term plain := by
  by_contra hnot
  rw [(contentHit?_eq_none ht).2 hnot] at h
  cases h

theorem contentHit?_weight {plain : List Char} (h : contentHit? w plain term = some hit) :
    hit.weight = w.content := by
  obtain ⟨place, -, rfl⟩ := Option.map_eq_some_iff.1 h
  rfl

end Fields

theorem Opens.occurs (ht : IsTerm term.toList) (h : Opens term (Text.trim text)) :
    Occurs term text := by
  obtain ⟨c, rest, before, after, heq, hc, -, hp⟩ := h
  rw [Occurs, ht.infix_fold, ← ht.infix_foldChars_trim, heq, Text.foldChars_cons, hc,
    List.append_assoc]
  exact hp.isInfix.trans (List.suffix_append _ _).isInfix

private theorem best_eq_first {first : Hit} {rest : List Hit}
    (h : ∀ hit ∈ rest, first.weight.lt hit.weight = false) : best first rest = first := by
  unfold best
  induction rest with
  | nil => rfl
  | cons hit rest ih =>
    rw [List.foldl_cons, h hit (List.mem_cons_self ..), if_neg Bool.false_ne_true]
    exact ih fun hit' hm => h hit' (List.mem_cons_of_mem _ hm)

/-- A term has no hit exactly when it counts nothing, whatever the weights are. -/
theorem hits_eq_nil {item : Item} {w : Weights} (ht : IsTerm term.toList) :
    hits w item (Text.plainText item.content.toList) term = [] ↔ ∀ n, ¬ Counts item term n := by
  have hnil : hits w item (Text.plainText item.content.toList) term = [] ↔
      ¬ Occurs term item.title.toList ∧ (∀ tag ∈ item.tags, ¬ Occurs term tag.toList) ∧
        (∀ p ∈ item.properties, ¬ Occurs term p.2.display.toList) ∧
        ¬ Occurs term (Text.plainText item.content.toList) := by
    rw [← titleHit?_eq_none ht (w := w), ← tagHit?_eq_none ht (w := w),
      ← propertyHit?_eq_none ht (w := w), ← contentHit?_eq_none ht (w := w)]
    simp [hits]
  rw [hnil]
  constructor
  · rintro ⟨htitle, htags, hproperties, hcontent⟩ n hn
    cases hn with
    | titleStart h => exact htitle (h.occurs ht)
    | title h => exact htitle h
    | tag mem h => exact htags _ mem h
    | property mem h => exact hproperties _ mem h
    | content h => exact hcontent h
  · intro h
    exact ⟨fun ho => h 10 (.title ho), fun tag mem ho => h 6 (.tag mem ho),
      fun p mem ho => h 4 (.property mem ho), fun ho => h 2 (.content ho)⟩

/-- The hits come with the greatest weight first. -/
theorem hits_descending (item : Item) (plain : List Char) (ht : IsTerm term.toList) :
    (hits {} item plain term).Pairwise fun a b => a.weight.lt b.weight = false := by
  have hc {hit : Hit} (h : contentHit? {} plain term = some hit) :
      hit.weight = Number.ofNat 2 := contentHit?_weight h
  have hp {hit : Hit} (h : propertyHit? {} item.properties term = some hit) :
      hit.weight = Number.ofNat 4 := propertyHit?_weight h
  have hg {hit : Hit} (h : tagHit? {} item.tags term = some hit) :
      hit.weight = Number.ofNat 6 := tagHit?_weight h
  have htitle {hit : Hit} (h : titleHit? {} item.title term = some hit) {m : Nat} (hm : m ≤ 10) :
      hit.weight.lt (Number.ofNat m) = false := by
    rcases titleHit?_eq_some ht h with ⟨-, hw⟩ | ⟨-, hw⟩
    · rw [hw, Number.not_lt_ofNat (by decide) (by omega)]
    · rw [hw, Number.not_lt_ofNat (by decide) hm]
  rw [hits, List.pairwise_filterMap]
  simp only [id_eq, List.pairwise_cons, List.mem_cons, List.not_mem_nil, or_false,
    forall_eq_or_imp, forall_eq, List.Pairwise.nil, and_true, false_implies, implies_true]
  refine ⟨⟨?_, ?_, ?_⟩, ⟨?_, ?_⟩, ?_⟩
  · intro a ha b hb
    rw [hg hb, htitle ha (by decide)]
  · intro a ha b hb
    rw [hp hb, htitle ha (by decide)]
  · intro a ha b hb
    rw [hc hb, htitle ha (by decide)]
  · intro a ha b hb
    rw [hg ha, hp hb, Number.not_lt_ofNat (by decide) (by decide)]
  · intro a ha b hb
    rw [hg ha, hc hb, Number.not_lt_ofNat (by decide) (by decide)]
  · intro a ha b hb
    rw [hp ha, hc hb, Number.not_lt_ofNat (by decide) (by decide)]

private theorem first_of_fields {title tag property content : Option Hit} {hit : Hit}
    {rest : List Hit}
    (h : [title, tag, property, content].filterMap id = hit :: rest) :
    title = some hit ∨ (title = none ∧ tag = some hit) ∨
      (title = none ∧ tag = none ∧ property = some hit) ∨
      (title = none ∧ tag = none ∧ property = none ∧ content = some hit) := by
  cases title with
  | some first => exact .inl (by simp_all)
  | none =>
    cases tag with
    | some first => exact .inr (.inl (by simp_all))
    | none =>
      cases property with
      | some first => exact .inr (.inr (.inl (by simp_all)))
      | none =>
        cases content with
        | some first => exact .inr (.inr (.inr (by simp_all)))
        | none => simp at h

private theorem first_weight {item : Item} (ht : IsTerm term.toList) {hit : Hit} {rest : List Hit}
    (h : hits {} item (Text.plainText item.content.toList) term = hit :: rest) :
    ∃ n, Best item term n ∧ hit.weight = Number.ofNat n := by
  rcases first_of_fields h with htitle | ⟨htitle, htag⟩ | ⟨htitle, htag, hproperty⟩ |
    ⟨htitle, htag, hproperty, hcontent⟩
  · rcases titleHit?_eq_some ht htitle with ⟨ho, hw⟩ | ⟨ho, hw⟩
    · refine ⟨12, ⟨.titleStart ho, ?_⟩, hw⟩
      intro m hm
      cases hm <;> decide
    · refine ⟨10, ⟨.title (titleHit?_occurs ht htitle), ?_⟩, hw⟩
      intro m hm
      cases hm with
      | titleStart h => exact absurd h ho
      | _ => decide
  · have hnone := (titleHit?_eq_none ht).1 htitle
    obtain ⟨tag, mem, hin⟩ := tagHit?_occurs ht htag
    refine ⟨6, ⟨.tag mem hin, ?_⟩, tagHit?_weight htag⟩
    intro m hm
    cases hm with
    | titleStart h => exact absurd (h.occurs ht) hnone
    | title h => exact absurd h hnone
    | _ => decide
  · have hnone := (titleHit?_eq_none ht).1 htitle
    have hnotag := (tagHit?_eq_none ht).1 htag
    obtain ⟨⟨id, v⟩, mem, hin⟩ := propertyHit?_occurs ht hproperty
    refine ⟨4, ⟨.property mem hin, ?_⟩, propertyHit?_weight hproperty⟩
    intro m hm
    cases hm with
    | titleStart h => exact absurd (h.occurs ht) hnone
    | title h => exact absurd h hnone
    | tag mem h => exact absurd h (hnotag _ mem)
    | _ => decide
  · have hnone := (titleHit?_eq_none ht).1 htitle
    have hnotag := (tagHit?_eq_none ht).1 htag
    have hnoproperty := (propertyHit?_eq_none ht).1 hproperty
    refine ⟨2, ⟨.content (contentHit?_occurs ht hcontent), ?_⟩, contentHit?_weight hcontent⟩
    intro m hm
    cases hm with
    | titleStart h => exact absurd (h.occurs ht) hnone
    | title h => exact absurd h hnone
    | tag mem h => exact absurd h (hnotag _ mem)
    | @property id v mem h => exact absurd h (hnoproperty (id, v) mem)
    | content h => decide

/-- The best hit counts what the best place of the term counts. -/
theorem best_weight {item : Item} (ht : IsTerm term.toList) {hit : Hit} {rest : List Hit}
    (h : hits {} item (Text.plainText item.content.toList) term = hit :: rest) :
    ∃ n, Best item term n ∧ (best hit rest).weight = Number.ofNat n := by
  obtain ⟨n, hbest, hw⟩ := first_weight ht h
  have hdesc := hits_descending item (Text.plainText item.content.toList) ht
  rw [h, List.pairwise_cons] at hdesc
  exact ⟨n, hbest, by rw [best_eq_first hdesc.1, hw]⟩

def total (sum : Number) (counts : List Nat) : Number :=
  counts.foldl (fun sum n => sum.add (Number.ofNat n)) sum

/-- Looking for some terms from some score on: there is a result exactly when each term counts
something, and it adds up what the best places count. -/
theorem score_spec (item : Item) {terms : List String} (ht : ∀ term ∈ terms, IsTerm term.toList)
    (sum : Number) (found : List Match) (snippet : Option Match) :
    (∃ r counts, score {} item (Text.plainText item.content.toList) terms sum found snippet = some r
      ∧ r.item = item ∧ List.Forall₂ (Best item) terms counts ∧ r.score = total sum counts) ∨
    (score {} item (Text.plainText item.content.toList) terms sum found snippet = none ∧
      ∃ term ∈ terms, ∀ n, ¬ Counts item term n) := by
  induction terms generalizing sum found snippet with
  | nil => exact .inl ⟨_, [], rfl, rfl, .nil, rfl⟩
  | cons term terms ih =>
    have hterm := ht term (List.mem_cons_self ..)
    cases hh : hits {} item (Text.plainText item.content.toList) term with
    | nil =>
      refine .inr ⟨by simp only [score, hh], term, List.mem_cons_self .., ?_⟩
      exact (hits_eq_nil hterm).1 hh
    | cons hit rest =>
      obtain ⟨n, hbest, hw⟩ := best_weight hterm hh
      simp only [score, hh, hw]
      rcases ih (fun t hm => ht t (List.mem_cons_of_mem _ hm)) (sum.add (Number.ofNat n)) _ _ with
        ⟨r, counts, hr, hitem, hcounts, hscore⟩ | ⟨hnone, t, hmem, hno⟩
      · exact .inl ⟨r, n :: counts, hr, hitem, .cons hbest hcounts, hscore⟩
      · exact .inr ⟨hnone, t, List.mem_cons_of_mem _ hmem, hno⟩

/-- The sum of counts is exact as long as it fits into a mantissa. -/
theorem total_eq_ofNat (a : Nat) {counts : List Nat} (h : a + counts.sum < 2 ^ 53) :
    total (Number.ofNat a) counts = Number.ofNat (a + counts.sum) := by
  induction counts generalizing a with
  | nil => rfl
  | cons n counts ih =>
    rw [List.sum_cons] at h ⊢
    rw [total, List.foldl_cons, Number.add_ofNat (by omega), ← total, ih (a + n) (by omega),
      Nat.add_assoc]

theorem notNegative_total {sum : Number} (h : sum.NotNegative) (counts : List Nat) :
    (total sum counts).NotNegative := by
  induction counts generalizing sum with
  | nil => exact h
  | cons n counts ih => exact ih (h.add (Number.notNegative_ofNat n))

end Cuaderno.Search
