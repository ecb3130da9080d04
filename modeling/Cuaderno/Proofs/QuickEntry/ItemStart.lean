import Cuaderno.QuickEntry.Suggestion
import Mathlib.Data.List.TakeWhile

/-!
# Where an item starts

In a value that is being typed only the last item counts: what stands behind the last comma, blanks
in front aside (`lastItem`). The place that is looked up in the line is where this item starts
(`itemStart_spec`).
-/

namespace Cuaderno.Text

/-- The part of a text behind the last separator; the whole text when there is none. -/
def behindLast (sep : Char) (cs : List Char) : List Char :=
  (cs.reverse.takeWhile (· != sep)).reverse

private theorem not_mem_behindLast (sep : Char) (cs : List Char) : sep ∉ behindLast sep cs := by
  intro h
  have hne := List.mem_takeWhile_imp (List.mem_reverse.1 h)
  exact absurd hne (by simp)

private theorem behindLast_suffix (sep : Char) (cs : List Char) : behindLast sep cs <:+ cs := by
  rw [← List.reverse_prefix, behindLast, List.reverse_reverse]
  exact List.takeWhile_prefix _

/-- A character that is no separator goes on with the part behind the last one. -/
theorem behindLast_concat {sep c : Char} (h : c ≠ sep) (cs : List Char) :
    behindLast sep (cs ++ [c]) = behindLast sep cs ++ [c] := by
  simp [behindLast, h]

theorem lastIndexOf?_eq_some {sep : Char} {cs : List Char} {i : Nat}
    (h : lastIndexOf? sep cs = some i) : i < cs.length ∧ cs.drop (i + 1) = behindLast sep cs := by
  obtain ⟨j, hj, rfl⟩ := Option.map_eq_some_iff.1 h
  obtain ⟨hlt, hfirst⟩ := List.findIdx?_eq_some_iff_findIdx_eq.1 hj
  rw [List.length_reverse] at hlt
  have hplace : cs.length - 1 - j + 1 = cs.length - j := by omega
  have htake : cs.reverse.takeWhile (· != sep) = cs.reverse.take j := by
    have hsame : (fun c => !(c != sep)) = (· == sep) := by
      funext c
      exact Bool.not_not (c == sep)
    rw [List.takeWhile_eq_take_findIdx_not, hsame, hfirst]
  refine ⟨by omega, ?_⟩
  rw [behindLast, htake, hplace, List.reverse_take, List.reverse_reverse, List.length_reverse]

private theorem behindLast_of_not_mem {sep : Char} {cs : List Char} (h : sep ∉ cs) :
    behindLast sep cs = cs := by
  have hall : cs.reverse.takeWhile (· != sep) = cs.reverse := by
    rw [List.takeWhile_eq_self_iff]
    intro c hc
    rw [bne_iff_ne]
    rintro rfl
    exact h (List.mem_reverse.1 hc)
  rw [behindLast, hall, List.reverse_reverse]

theorem lastIndexOf?_eq_none {sep : Char} {cs : List Char} (h : lastIndexOf? sep cs = none) :
    sep ∉ cs := by
  have hnone := List.findIdx?_eq_none_iff.1 (Option.map_eq_none_iff.1 h)
  intro hmem
  exact absurd (hnone sep (List.mem_reverse.2 hmem)) (by simp)

/-- Nothing behind a text moves its last separator, unless there is one more. -/
theorem lastIndexOf?_append_of_not_mem {sep : Char} {after : List Char} (h : sep ∉ after)
    (before : List Char) : lastIndexOf? sep (before ++ after) = lastIndexOf? sep before := by
  have hnone : after.reverse.findIdx? (· == sep) = none := by
    rw [List.findIdx?_eq_none_iff]
    intro c hc
    rw [beq_eq_false_iff_ne]
    rintro rfl
    exact h (List.mem_reverse.1 hc)
  rw [lastIndexOf?, List.reverse_append, List.findIdx?_append, hnone, Option.none_or,
    Option.map_map, lastIndexOf?]
  congr 1
  funext i
  simp only [Function.comp_apply, List.length_append, List.length_reverse]
  omega

theorem lastIndexOf?_concat_self (sep : Char) (cs : List Char) :
    lastIndexOf? sep (cs ++ [sep]) = some cs.length := by
  simp [lastIndexOf?, List.findIdx?_cons]

end Cuaderno.Text

namespace Cuaderno.QuickEntry

open Cuaderno.Text (isBlank trimStart behindLast)

/-- What a value lists: blanks and one bracket in front do not belong to it. -/
def listBody (value : List Char) : List Char :=
  match trimStart value with
  | '[' :: rest => rest
  | cs => cs

private theorem listBody_suffix (value : List Char) : listBody value <:+ value := by
  unfold listBody
  split
  · rename_i rest hrest
    exact (hrest ▸ List.suffix_cons '[' rest).trans (Text.trimStart_suffix value)
  · exact Text.trimStart_suffix value

/-- The item that is being typed at the end of a value: what it lists behind the last comma. -/
def lastItem (value : List Char) : List Char := trimStart (behindLast ',' (listBody value))

theorem lastItem_suffix (value : List Char) : lastItem value <:+ value :=
  (Text.trimStart_suffix _).trans ((Text.behindLast_suffix _ _).trans (listBody_suffix value))

theorem comma_not_mem_lastItem (value : List Char) : ',' ∉ lastItem value := fun h =>
  Text.not_mem_behindLast _ _ ((Text.trimStart_suffix _).subset h)

/-- The last item of a value without brackets and commas is the value. -/
theorem lastItem_of_single {value : List Char} (hbracket : '[' ∉ value) (hcomma : ',' ∉ value) :
    lastItem value = trimStart value := by
  have hbody : listBody value = trimStart value := by
    unfold listBody
    split
    · rename_i rest hrest
      apply absurd _ hbracket
      apply (Text.trimStart_suffix value).subset
      rw [hrest]
      exact List.mem_cons_self
    · rfl
  have hall : behindLast ',' (trimStart value) = trimStart value :=
    Text.behindLast_of_not_mem fun h => hcomma ((Text.trimStart_suffix value).subset h)
  rw [lastItem, hbody, hall]
  exact Text.trimStart_eq_self fun c hc => Text.head?_trimStart hc

variable {cs : List Char} {n : Nat}

/-- Skipping blanks stays in the line, and drops what trimming drops. -/
theorem skipBlanks_spec (h : n ≤ cs.length) : n ≤ skipBlanks cs n ∧
    skipBlanks cs n ≤ cs.length ∧ cs.drop (skipBlanks cs n) = trimStart (cs.drop n) := by
  have hlen := (List.takeWhile_prefix isBlank (l := cs.drop n)).length_le
  rw [List.length_drop] at hlen
  refine ⟨Nat.le_add_right .., by unfold skipBlanks; omega, ?_⟩
  rw [skipBlanks, ← List.drop_drop]
  calc (cs.drop n).drop ((cs.drop n).takeWhile isBlank).length
    _ = ((cs.drop n).takeWhile isBlank ++ trimStart (cs.drop n)).drop
          ((cs.drop n).takeWhile isBlank).length := by
        rw [trimStart, List.takeWhile_append_dropWhile]
    _ = trimStart (cs.drop n) := List.drop_left

/-- Where the list of a value starts: behind blanks and one bracket. -/
def bodyStart (cs : List Char) (n : Nat) : Nat :=
  if cs[skipBlanks cs n]? = some '[' then skipBlanks cs n + 1 else skipBlanks cs n

theorem bodyStart_spec (h : n ≤ cs.length) : n ≤ bodyStart cs n ∧ bodyStart cs n ≤ cs.length ∧
    cs.drop (bodyStart cs n) = listBody (cs.drop n) := by
  obtain ⟨hle, hlen, hdrop⟩ := skipBlanks_spec h
  unfold bodyStart listBody
  rw [← List.head?_drop, hdrop]
  split
  · rename_i hbracket
    obtain ⟨rest, hrest⟩ := List.head?_eq_some_iff.1 hbracket
    have hlt : 0 < (cs.drop (skipBlanks cs n)).length := by
      rw [hdrop, hrest]
      exact Nat.succ_pos _
    rw [List.length_drop] at hlt
    refine ⟨by omega, by omega, ?_⟩
    rw [← List.drop_drop, hdrop, hrest]
    rfl
  · rename_i hbracket
    refine ⟨hle, hlen, ?_⟩
    rw [hdrop]
    split
    · rename_i rest hrest
      rw [hrest] at hbracket
      exact absurd rfl hbracket
    · rfl

/-- An item starts within its value, and from there on stands the last item of the value. -/
theorem itemStart_spec (h : n ≤ cs.length) : n ≤ itemStart cs n ∧ itemStart cs n ≤ cs.length ∧
    cs.drop (itemStart cs n) = lastItem (cs.drop n) := by
  obtain ⟨hle, hlen, hdrop⟩ := bodyStart_spec h
  rw [lastItem, ← hdrop]
  cases hcomma : Text.lastIndexOf? ',' (cs.drop (bodyStart cs n)) with
  | none =>
    have hitem : itemStart cs n = skipBlanks cs (bodyStart cs n) := by
      unfold bodyStart at hcomma ⊢
      simp only [itemStart, hcomma]
    obtain ⟨hskip, hskipLen, hskipDrop⟩ := skipBlanks_spec hlen
    rw [hitem, Text.behindLast_of_not_mem (Text.lastIndexOf?_eq_none hcomma)]
    exact ⟨hle.trans hskip, hskipLen, hskipDrop⟩
  | some i =>
    obtain ⟨hi, hbehind⟩ := Text.lastIndexOf?_eq_some hcomma
    have hitem : itemStart cs n = skipBlanks cs (bodyStart cs n + i + 1) := by
      unfold bodyStart at hcomma ⊢
      simp only [itemStart, hcomma]
    rw [List.length_drop] at hi
    obtain ⟨hskip, hskipLen, hskipDrop⟩ := @skipBlanks_spec cs (bodyStart cs n + i + 1) (by omega)
    have hbefore : bodyStart cs n ≤ bodyStart cs n + i + 1 := by omega
    rw [hitem]
    refine ⟨hle.trans (hbefore.trans hskip), hskipLen, ?_⟩
    rw [hskipDrop, ← hbehind, List.drop_drop, Nat.add_assoc]

end Cuaderno.QuickEntry
