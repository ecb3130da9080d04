import Cuaderno.Proofs.Text.Folding
import Cuaderno.QuickEntry.TypedList
import Cuaderno.Value
import Mathlib.Data.List.Basic

/-!
# Lists that are written and split again

The text of a list has its items with a comma and a space between them. Splitting it gives the items
back when it is written in brackets. Without brackets it gives them back as well, unless the list
looks as if it were in brackets (`LooksBracketed`); then one bracket at either end is lost, and the
list with it (`splitList_display`).

All follows from what is between the commas of a text (`itemsBetween`): from a joined text it is the
items themselves (`itemsBetween_intercalate`), and no character other than blanks and commas is lost
(`count_itemsBetween`).
-/

namespace Cuaderno.QuickEntry

open Cuaderno.Text (cut isBlank trim IsTerm)

/-- An item of a list: not empty, with no blank at either end, and no comma in it. -/
structure IsListItem (item : List Char) : Prop extends IsTerm item where
  comma : ',' ∉ item

/-- The items between the commas of a text. -/
def itemsBetween (cs : List Char) : List (List Char) :=
  ((cut ',' cs).map trim).filter (!·.isEmpty)

/-- Items as they are written: with a comma and a space between them. -/
def listText (items : List (List Char)) : List Char := ", ".toList.intercalate items

variable {items : List (List Char)} {item cs : List Char} {c : Char}

private theorem listItems_eq (cs : List Char) :
    listItems cs = itemsBetween (unbracketed (trim cs)) := rfl

private theorem itemsBetween_cons_blank (hc : isBlank c = true) (cs : List Char) :
    itemsBetween (c :: cs) = itemsBetween cs := by
  have hcomma : c ≠ ',' := by
    rintro rfl
    cases hc
  obtain ⟨piece, pieces, hpieces⟩ := List.exists_cons_of_ne_nil (Text.cut_ne_nil ',' cs)
  have hpiece : trim (c :: piece) = trim piece := by
    have hfront := Text.trim_blanks_append (List.forall_mem_singleton.2 hc) piece
    rwa [List.singleton_append] at hfront
  have hcut : cut ',' (c :: cs) = (c :: piece) :: pieces := by
    rw [cut, if_neg hcomma, hpieces]
  rw [itemsBetween, hcut, List.map_cons, hpiece, ← List.map_cons, ← hpieces, itemsBetween]

private theorem itemsBetween_item (h : IsListItem item) : itemsBetween item = [item] := by
  rw [itemsBetween, Text.cut_of_not_mem h.comma, List.map_singleton, h.trim_eq,
    List.filter_cons_of_pos (by simpa using h.ne_nil), List.filter_nil]

private theorem itemsBetween_item_append (h : IsListItem item) (cs : List Char) :
    itemsBetween (item ++ ',' :: cs) = item :: itemsBetween cs := by
  rw [itemsBetween, Text.cut_append_cons h.comma, List.map_cons, h.trim_eq,
    List.filter_cons_of_pos (by simpa using h.ne_nil), itemsBetween]

private theorem listText_cons_cons (item next : List Char) (items : List (List Char)) :
    listText (item :: next :: items) = item ++ ',' :: ' ' :: listText (next :: items) := by
  rw [listText, List.intercalate_cons_cons, List.append_assoc]
  rfl

/-- Items that are joined are found again between the commas. -/
theorem itemsBetween_listText (h : ∀ item ∈ items, IsListItem item) :
    itemsBetween (listText items) = items := by
  induction items with
  | nil => rfl
  | cons item items ih =>
    rw [List.forall_mem_cons] at h
    cases items with
    | nil => rw [listText, List.intercalate_singleton, itemsBetween_item h.1]
    | cons next items =>
      rw [listText_cons_cons, itemsBetween_item_append h.1, itemsBetween_cons_blank rfl, ih h.2]

private theorem count_cut (hc : c ≠ ',') (cs : List Char) :
    (cut ',' cs).flatten.count c = cs.count c := by
  induction cs with
  | nil => rfl
  | cons d cs ih =>
    obtain ⟨piece, pieces, hpieces⟩ := List.exists_cons_of_ne_nil (Text.cut_ne_nil ',' cs)
    rw [hpieces, List.flatten_cons] at ih
    by_cases hd : d = ','
    · rw [cut, if_pos hd, List.flatten_cons, List.nil_append, hpieces, List.flatten_cons, ih, hd,
        List.count_cons_of_ne hc.symm]
    · rw [cut, if_neg hd, hpieces, List.flatten_cons, List.cons_append, List.count_cons, ih,
        List.count_cons]

private theorem count_trim (hc : isBlank c = false) (cs : List Char) :
    (trim cs).count c = cs.count c := by
  obtain ⟨before, after, hcs, hbefore, hafter⟩ := Text.exists_blanks_trim cs
  have hnone {blanks : List Char} (h : ∀ d ∈ blanks, isBlank d = true) : blanks.count c = 0 := by
    rw [List.count_eq_zero]
    intro hmem
    rw [h c hmem] at hc
    cases hc
  calc (trim cs).count c
    _ = (before ++ (trim cs ++ after)).count c := by
      rw [List.count_append, List.count_append, hnone hbefore, hnone hafter, Nat.zero_add,
        Nat.add_zero]
    _ = cs.count c := by rw [← hcs]

/-- Only blanks and commas are lost between the items. -/
theorem count_itemsBetween (hc : isBlank c = false) (hcomma : c ≠ ',') (cs : List Char) :
    (itemsBetween cs).flatten.count c = cs.count c := by
  have htrim (pieces : List (List Char)) :
      (pieces.map trim).flatten.count c = pieces.flatten.count c := by
    induction pieces with
    | nil => rfl
    | cons piece pieces ih =>
      rw [List.map_cons, List.flatten_cons, List.count_append, count_trim hc, ih,
        ← List.count_append, List.flatten_cons]
  rw [itemsBetween, List.flatten_filter_not_isEmpty, htrim, count_cut hcomma]

private theorem head?_listText (h : ∀ item ∈ items, IsListItem item) :
    (listText items).head? = items.head?.bind List.head? := by
  cases items with
  | nil => rfl
  | cons item items =>
    obtain ⟨c, cs, rfl⟩ := List.exists_cons_of_ne_nil (h item List.mem_cons_self).ne_nil
    cases items with
    | nil =>
      rw [listText, List.intercalate_singleton]
      rfl
    | cons next items =>
      rw [listText_cons_cons]
      rfl

private theorem getLast?_listText (h : ∀ item ∈ items, IsListItem item) :
    (listText items).getLast? = items.getLast?.bind List.getLast? := by
  induction items with
  | nil => rfl
  | cons item items ih =>
    rw [List.forall_mem_cons] at h
    cases items with
    | nil =>
      rw [listText, List.intercalate_singleton]
      rfl
    | cons next items =>
      have hne : listText (next :: items) ≠ [] := by
        intro hnil
        have hitems := itemsBetween_listText h.2
        rw [hnil] at hitems
        cases hitems
      rw [listText_cons_cons, List.append_cons, List.append_cons,
        List.getLast?_append_of_ne_nil _ hne, ih h.2, List.getLast?_cons_cons]

private theorem trim_listText (h : ∀ item ∈ items, IsListItem item) :
    trim (listText items) = listText items := by
  apply Text.trim_eq_self
  · intro c hc
    rw [head?_listText h, Option.bind_eq_some_iff] at hc
    obtain ⟨first, hfirst, hc⟩ := hc
    apply @Text.head?_trim first
    rwa [(h first (List.mem_of_head? hfirst)).trim_eq]
  · intro c hc
    rw [getLast?_listText h, Option.bind_eq_some_iff] at hc
    obtain ⟨last, hlast, hc⟩ := hc
    apply @Text.getLast?_trim last
    rwa [(h last (List.mem_of_getLast? hlast)).trim_eq]

private theorem unbracketed_brackets (cs : List Char) :
    unbracketed ('[' :: (cs ++ [']'])) = cs := by
  have hlast : ('[' :: (cs ++ [']'])).getLast? = some ']' := by
    rw [← List.cons_append, List.getLast?_concat]
  simp [unbracketed, hlast]

private theorem trim_brackets (cs : List Char) :
    trim ('[' :: (cs ++ [']'])) = '[' :: (cs ++ [']']) := by
  apply Text.trim_eq_self
  · intro c hc
    cases hc
    rfl
  · intro c hc
    rw [List.getLast?_cons, List.getLast?_concat] at hc
    cases hc
    rfl

private theorem listItems_brackets (h : ∀ item ∈ items, IsListItem item) :
    listItems ('[' :: (listText items ++ [']'])) = items := by
  rw [listItems_eq, trim_brackets, unbracketed_brackets, itemsBetween_listText h]

/-- A text in brackets, which has one opening bracket more than what is in them. -/
theorem exists_of_brackets {cs : List Char} (hhead : cs.head? = some '[')
    (hlast : cs.getLast? = some ']') : ∃ inner, cs = '[' :: (inner ++ [']']) := by
  obtain ⟨rest, rfl⟩ := List.head?_eq_some_iff.1 hhead
  obtain ⟨inner, hinner⟩ := List.getLast?_eq_some_iff.1 hlast
  cases inner with
  | nil => cases hinner
  | cons c inner =>
    obtain ⟨rfl, rfl⟩ := List.cons.inj hinner
    exact ⟨inner, rfl⟩

/-- Whether the first of some items starts with an opening bracket and the last one ends with a
closing one. -/
def LooksBracketed (items : List (List Char)) : Prop :=
  items.head?.bind List.head? = some '[' ∧ items.getLast?.bind List.getLast? = some ']'

instance : Decidable (LooksBracketed items) := inferInstanceAs (Decidable (_ ∧ _))

/-- Without brackets, a joined text is split into its items unless it looks as if it were in
brackets. -/
theorem listItems_listText (h : ∀ item ∈ items, IsListItem item) :
    listItems (listText items) = items ↔ ¬ LooksBracketed items := by
  rw [listItems_eq, trim_listText h, LooksBracketed, ← head?_listText h, ← getLast?_listText h]
  constructor
  · rintro hitems ⟨hhead, hlast⟩
    obtain ⟨inner, hinner⟩ := exists_of_brackets hhead hlast
    rw [hinner, unbracketed_brackets] at hitems
    -- what is in the brackets has one opening bracket less
    have hopen : inner.count '[' = (listText items).count '[' := by
      rw [← count_itemsBetween rfl (by decide) inner, hitems,
        ← count_itemsBetween rfl (by decide) (listText items), itemsBetween_listText h]
    rw [hinner, List.count_cons_self, List.count_append] at hopen
    omega
  · intro hlooks
    rw [unbracketed, if_neg (by simpa using hlooks), itemsBetween_listText h]

private theorem toList_display_texts (items : List String) :
    (Value.texts items).display.toList = listText (items.map String.toList) :=
  String.toList_intercalate

theorem splitList_eq_iff {s : String} {items : List String} :
    splitList s = items ↔ listItems s.toList = items.map String.toList := by
  rw [splitList, ← List.map_inj_right fun _ _ h => String.toList_inj.1 h, List.map_map]
  simp [Function.comp_def]

/-- A list of texts that are items is given back by its text in brackets; by its text as it is
shown, exactly when it does not look as if it were in brackets. And what a typed list is split into
are items, whatever is typed. -/
theorem splitList_display {items : List String} (h : ∀ s ∈ items, IsListItem s.toList) :
    splitList ("[" ++ (Value.texts items).display ++ "]") = items ∧
    (splitList (Value.texts items).display = items ↔
      ¬ LooksBracketed (items.map String.toList)) ∧
    ∀ typed, ∀ s ∈ splitList typed, IsListItem s.toList := by
  have hitems : ∀ item ∈ items.map String.toList, IsListItem item := List.forall_mem_map.2 h
  refine ⟨?_, ?_, fun typed s hs => ?_⟩
  · have htext : ("[" ++ (Value.texts items).display ++ "]").toList =
        '[' :: (listText (items.map String.toList) ++ [']']) := by
      rw [String.toList_append, String.toList_append, toList_display_texts]
      rfl
    rw [splitList_eq_iff, htext, listItems_brackets hitems]
  · rw [splitList_eq_iff, toList_display_texts, listItems_listText hitems]
  · obtain ⟨item, hitem, rfl⟩ := List.mem_map.1 hs
    obtain ⟨hne, htrim, hcomma⟩ := mem_listItems hitem
    rw [String.toList_ofList]
    exact ⟨⟨hne, htrim⟩, hcomma⟩

/-- Items with quotes, brackets and blanks in them, and two that look as if they were in
brackets. -/
theorem splitList_display_shopping :
    splitList "[pan [integral], \"té\", hojas ]]" = ["pan [integral]", "\"té\"", "hojas ]"] ∧
      splitList "pan [integral], \"té\", hojas ]" = ["pan [integral]", "\"té\"", "hojas ]"] ∧
      splitList "[[pan, té]]" = ["[pan", "té]"] ∧ splitList "[pan, té]" ≠ ["[pan", "té]"] := by
  have hplain : ∀ s ∈ ["pan [integral]", "\"té\"", "hojas ]"], IsListItem s.toList := by
    simp only [List.forall_mem_cons, List.not_mem_nil, false_imp_iff, implies_true, and_true]
    exact ⟨⟨⟨by decide, by decide⟩, by decide⟩, ⟨⟨by decide, by decide⟩, by decide⟩,
      ⟨⟨by decide, by decide⟩, by decide⟩⟩
  have hbrackets : ∀ s ∈ ["[pan", "té]"], IsListItem s.toList := by
    simp only [List.forall_mem_cons, List.not_mem_nil, false_imp_iff, implies_true, and_true]
    exact ⟨⟨⟨by decide, by decide⟩, by decide⟩, ⟨⟨by decide, by decide⟩, by decide⟩⟩
  obtain ⟨hplain, hplain', -⟩ := splitList_display hplain
  obtain ⟨hbrackets, hbrackets', -⟩ := splitList_display hbrackets
  exact ⟨hplain, hplain'.2 (by decide), hbrackets, fun h => hbrackets'.1 h (by decide)⟩

end Cuaderno.QuickEntry
