import Cuaderno.Text.Blank
import Cuaderno.Text.CaseFold
import Cuaderno.Text.Decomposition
import Cuaderno.Text.CombiningMark

/-!
# Comparison keys

Names, titles, tags and typed words are compared by a key in which case and accents do not count:
each character is case folded and decomposed, and its combining marks are dropped. So `Mañana`,
`MANANA` and `mañana` share the key `manana`.

`foldIndexed` also says from which character of the text each character of the folded form comes,
so that a place found in the folded form can be shown in the text itself.
-/

namespace Cuaderno.Text

/-- The folded form of one character: no, one or several characters. -/
def foldChar (c : Char) : List Char :=
  ((caseFold c).flatMap decompose).filter (!isMark ·)

/-- The folded form of a text, outer blanks included. -/
def foldChars (cs : List Char) : List Char := cs.flatMap foldChar

/-- The folded form of a text without outer blanks. -/
def fold (cs : List Char) : List Char := trim (foldChars cs)

def key (s : String) : String := String.ofList (fold s.toList)

@[simp] theorem foldChars_nil : foldChars [] = [] := rfl

@[simp] theorem foldChars_cons (c : Char) (cs : List Char) :
    foldChars (c :: cs) = foldChar c ++ foldChars cs := rfl

@[simp] theorem foldChars_append (as bs : List Char) :
    foldChars (as ++ bs) = foldChars as ++ foldChars bs := List.flatMap_append

@[simp] theorem toList_key (s : String) : (key s).toList = fold s.toList := String.toList_ofList

/-- The folded form, each character with the index of the character that it comes from. -/
def foldIndexed (cs : List Char) : List (Char × Nat) :=
  cs.zipIdx.flatMap fun (c, i) => (foldChar c).map (·, i)

theorem map_fst_foldIndexed (cs : List Char) : (foldIndexed cs).map Prod.fst = foldChars cs := by
  suffices h : ∀ k, ((cs.zipIdx k).flatMap fun (c, i) => (foldChar c).map (·, i)).map Prod.fst
      = foldChars cs from h 0
  intro k
  induction cs generalizing k with
  | nil => rfl
  | cons c cs ih => simp [List.zipIdx_cons, ih, Function.comp_def]

theorem length_foldIndexed (cs : List Char) : (foldIndexed cs).length = (foldChars cs).length := by
  rw [← map_fst_foldIndexed, List.length_map]

theorem lt_length_of_mem_foldIndexed {cs : List Char} {d : Char} {i : Nat}
    (h : (d, i) ∈ foldIndexed cs) : i < cs.length := by
  simp only [foldIndexed, List.mem_flatMap, List.mem_map, Prod.mk.injEq] at h
  obtain ⟨⟨c, j⟩, hj, _, _, _, rfl⟩ := h
  have := List.mem_zipIdx hj
  omega

end Cuaderno.Text
