import Cuaderno.Text.Blank
import Cuaderno.Text.Piece

/-!
# Typed lists and quotes

A list is typed as items with commas between them, all in brackets or not. Items lose their outer
blanks, and empty items do not count.
-/

namespace Cuaderno.QuickEntry

def unbracketed (cs : List Char) : List Char :=
  if cs.head? = some '[' && cs.getLast? = some ']' then (cs.drop 1).dropLast else cs

def listItems (cs : List Char) : List (List Char) :=
  ((Text.cut ',' (unbracketed (Text.trim cs))).map Text.trim).filter (!·.isEmpty)

def splitList (s : String) : List String := (listItems s.toList).map String.ofList

/-- A text without the quotes around it, single or double ones. -/
def unquoted (cs : List Char) : List Char :=
  match cs with
  | c :: _ :: _ =>
    if (c = '\'' || c = '"') && cs.getLast? = some c then (cs.drop 1).dropLast else cs
  | _ => cs

/-- A typed value without outer blanks, and then without quotes around it. -/
def typedValue (s : String) : String := String.ofList (unquoted (Text.trim s.toList))

/-- Items lose their outer blanks, hold no comma and are not empty. -/
theorem mem_listItems {cs item : List Char} (h : item ∈ listItems cs) :
    item ≠ [] ∧ Text.trim item = item ∧ ',' ∉ item := by
  simp only [listItems, List.mem_filter, List.mem_map] at h
  obtain ⟨⟨piece, hp, rfl⟩, hne⟩ := h
  refine ⟨by simpa using hne, Text.trim_trim _, fun hc => Text.not_mem_of_mem_cut hp ?_⟩
  have hs := (Text.trimStart_suffix piece).subset
  exact hs ((Text.trimEnd_isPrefix (Text.trimStart piece)).subset hc)

end Cuaderno.QuickEntry
