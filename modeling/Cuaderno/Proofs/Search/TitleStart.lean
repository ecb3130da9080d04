import Cuaderno.Proofs.QuickEntry.Matching
import Cuaderno.Proofs.Search.Score
import Cuaderno.Proofs.Text.Respelling

/-!
# Titles that start with a term

Two tests tell whether a title starts with a term. Suggestions compare the folded form of the title
with the term (`Begins`), while a match counts more when its first character is the first one of the
title (`HasBonus`). Where the first character of the title folds to one character, the tests agree.
Where it folds to nothing, the match never counts more; where it folds to several, it also counts
more when the term starts with a later one of these (`titleHit?_bonus`).
-/

namespace Cuaderno.Search

open Cuaderno.Text (IsTerm fold foldChar foldChars isBlank trim)

def Begins (term title : String) : Prop := term.toList <+: fold title.toList

/-- Whether a term matches a title and counts more than elsewhere in it, whatever the weights
are. -/
def HasBonus (term title : String) : Prop :=
  ∀ w : Weights, ∃ m, titleHit? w title term = some ⟨w.title.add w.titleStart, m⟩

/-- Whether a term starts within what the first character of a text folds to, but not with the first
character of that. -/
def OpensWithin (term : String) (text : List Char) : Prop :=
  ∃ c rest before after, text = c :: rest ∧ foldChar c = before ++ after ∧ before ≠ [] ∧
    after ≠ [] ∧ term.toList <+: after ++ foldChars rest

/-- Whether the first character of a text folds to something. -/
def FirstFolds (text : List Char) : Prop := ∃ c rest, text = c :: rest ∧ foldChar c ≠ []

variable {term title : String} {text : List Char}

instance : Decidable (Begins term title) := inferInstanceAs (Decidable (_ <+: _))

theorem Begins.occurs (h : Begins term title) : Occurs term title.toList := h.isInfix

/-- A title that starts with no blank does not fold to one either, so that it starts with a term
when its folded form does, blanks at the end of it included. -/
theorem begins_iff (ht : IsTerm term.toList) (hfirst : FirstFolds (trim title.toList)) :
    Begins term title ↔ term.toList <+: foldChars (trim title.toList) := by
  obtain ⟨c, rest, htitle, hc⟩ := hfirst
  obtain ⟨d, ds, hd⟩ := List.exists_cons_of_ne_nil hc
  rw [Begins, ← Text.fold_trim, fold]
  apply ht.prefix_trim
  intro e he
  rw [htitle, Text.foldChars_cons, hd] at he
  cases he
  by_contra hblank
  rw [Bool.not_eq_false] at hblank
  have hcblank : isBlank c = true :=
    Text.isBlank_of_mem_foldChar (hd ▸ List.mem_cons_self) hblank
  have hnot : isBlank c = false := by
    apply @Text.head?_trim title.toList
    rw [htitle, List.head?_cons]
  rw [hcblank] at hnot
  cases hnot

/-- A term opens a title from the first character of its folded form on, or from a later one that
the first character of the title folds to. -/
theorem opens_iff (ht : IsTerm term.toList) : Opens term (trim title.toList) ↔
    FirstFolds (trim title.toList) ∧ Begins term title ∨ OpensWithin term (trim title.toList) := by
  constructor
  · rintro ⟨c, rest, before, after, htitle, hc, hne, hterm⟩
    cases before with
    | nil =>
      rw [List.nil_append] at hc
      have hfirst : FirstFolds (trim title.toList) := ⟨c, rest, htitle, hc ▸ hne⟩
      refine .inl ⟨hfirst, (begins_iff ht hfirst).2 ?_⟩
      rwa [htitle, Text.foldChars_cons, hc]
    | cons d before =>
      exact .inr ⟨c, rest, d :: before, after, htitle, hc, List.cons_ne_nil _ _, hne, hterm⟩
  · rintro (⟨hfirst, hbegins⟩ | ⟨c, rest, before, after, htitle, hc, -, hne, hterm⟩)
    · have hterm := (begins_iff ht hfirst).1 hbegins
      obtain ⟨c, rest, htitle, hc⟩ := hfirst
      rw [htitle, Text.foldChars_cons] at hterm
      exact ⟨c, rest, [], foldChar c, htitle, rfl, hc, hterm⟩
    · exact ⟨c, rest, before, after, htitle, hc, hne, hterm⟩

theorem Opens.firstFolds (h : Opens term text) : FirstFolds text := by
  obtain ⟨c, rest, before, after, htext, hc, hne, -⟩ := h
  exact ⟨c, rest, htext, by simp [hc, hne]⟩

private theorem not_opensWithin {c : Char} {rest : List Char} (htext : text = c :: rest)
    (hlength : (foldChar c).length = 1) : ¬ OpensWithin term text := by
  rintro ⟨d, others, before, after, heq, hd, hbefore, hafter, -⟩
  obtain ⟨rfl, -⟩ := List.cons.inj (htext.symm.trans heq)
  rw [hd, List.length_append] at hlength
  have hfront := List.length_pos_iff.2 hbefore
  have hback := List.length_pos_iff.2 hafter
  omega

private theorem title_add_titleStart :
    ({} : Weights).title.add ({} : Weights).titleStart = Number.ofNat 12 :=
  Number.add_ofNat (by decide)

theorem hasBonus_iff (ht : IsTerm term.toList) :
    HasBonus term title ↔ Opens term (trim title.toList) := by
  constructor
  · intro h
    -- with the default weights a title with the bonus is told from one without
    obtain ⟨m, hm⟩ := h {}
    rw [title_add_titleStart] at hm
    rcases titleHit?_eq_some ht hm with ⟨hopens, -⟩ | ⟨-, hweight⟩
    · exact hopens
    · dsimp only at hweight
      exact absurd hweight (by decide +kernel)
  · intro h w
    cases hhit : titleHit? w title term with
    | none => exact absurd (h.occurs ht) ((titleHit?_eq_none ht).1 hhit)
    | some hit =>
      rcases titleHit?_weight ht hhit with ⟨-, hweight⟩ | ⟨hnot, -⟩
      · exact ⟨hit.mark, by rw [← hweight]⟩
      · exact absurd h hnot

/-- Suggestions with titles that start with what is looked for come before all others. -/
theorem pairwise_begins_ranked (term : String) (items : List Item) :
    (QuickEntry.ranked term.toList items).Pairwise
      fun a b => Begins term b.title → Begins term a.title := by
  have horders := QuickEntry.orders_starts.on fun item : Item =>
    term.toList.isPrefixOf (fold item.title.toList)
  refine (horders.pairwise_mergeSort fun _ _ => trivial).imp fun {a b} hab hb => ?_
  rw [Begins, ← List.isPrefixOf_iff_prefix] at hb ⊢
  simpa [hb] using hab

/-- A match in a title has the bonus or it counts as much as elsewhere in the title. A title that
starts with the term has the bonus unless its first character folds to nothing, and any other title
only if the term starts within what its first character folds to. So the bonus goes to the titles
that start with the term whenever their first character folds to one character, by the test that
puts the suggestions in order. -/
theorem titleHit?_bonus (ht : IsTerm term.toList) :
    (∀ w hit, titleHit? w title term = some hit →
      HasBonus term title ∧ hit.weight = w.title.add w.titleStart ∨
        ¬ HasBonus term title ∧ hit.weight = w.title) ∧
    (Begins term title → (∀ w, (titleHit? w title term).isSome = true) ∧
      (HasBonus term title ↔ FirstFolds (trim title.toList))) ∧
    (¬ Begins term title → (HasBonus term title ↔ OpensWithin term (trim title.toList))) ∧
    (∀ c rest, trim title.toList = c :: rest → (foldChar c).length = 1 →
      (HasBonus term title ↔ Begins term title)) ∧
    ∀ items, (QuickEntry.ranked term.toList items).Pairwise
      fun a b => Begins term b.title → Begins term a.title := by
  rw [hasBonus_iff ht]
  refine ⟨fun w hit hhit => titleHit?_weight ht hhit, fun hbegins => ⟨fun w => ?_, ?_⟩,
    fun hnot => ?_, fun c rest htitle hlength => ?_, pairwise_begins_ranked term⟩
  · rw [Option.isSome_iff_ne_none, ne_eq, titleHit?_eq_none ht, not_not]
    exact hbegins.occurs
  · exact ⟨Opens.firstFolds, fun hfirst => (opens_iff ht).2 (.inl ⟨hfirst, hbegins⟩)⟩
  · rw [opens_iff ht]
    exact or_iff_right fun h => hnot h.2
  · rw [opens_iff ht]
    constructor
    · rintro (⟨-, hbegins⟩ | hwithin)
      · exact hbegins
      · exact absurd hwithin (not_opensWithin htitle hlength)
    · intro hbegins
      exact .inl ⟨⟨c, rest, htitle, List.ne_nil_of_length_pos (by omega)⟩, hbegins⟩

/-- A title with an accent on its first letter. -/
theorem titleHit?_bonus_alamo :
    Begins "alam" "Álamo" ∧ HasBonus "alam" "Álamo" ∧
      ∃ m, titleHit? {} "Álamo" "alam" = some ⟨Number.ofNat 12, m⟩ := by
  have hterm : IsTerm "alam".toList := ⟨by decide, by decide⟩
  have hbegins : Begins "alam" "Álamo" := by decide +kernel
  obtain ⟨-, -, -, hone, -⟩ := @titleHit?_bonus "alam" "Álamo" hterm
  have hbonus := (hone 'Á' "lamo".toList (by decide) (by decide +kernel)).2 hbegins
  refine ⟨hbegins, hbonus, ?_⟩
  rw [← title_add_titleStart]
  exact hbonus {}

/-- A title whose first character folds to `fi` has the bonus for a term that starts with the second
of these letters, and a title that starts with a lone accent has none for the term that it starts
with. -/
theorem titleHit?_bonus_otherwise :
    (∃ m, titleHit? {} "ﬁnal" "inal" = some ⟨Number.ofNat 12, m⟩) ∧ ¬ Begins "inal" "ﬁnal" ∧
      (∃ m, titleHit? {} "\u0301alba" "alba" = some ⟨Number.ofNat 10, m⟩) ∧
      Begins "alba" "\u0301alba" := by
  refine ⟨⟨⟨.title, "inal", "ﬁnal", 0, 4, none⟩, ?_⟩, ?_,
    ⟨⟨.title, "alba", "\u0301alba", 1, 5, none⟩, ?_⟩, ?_⟩ <;> decide +kernel

end Cuaderno.Search
