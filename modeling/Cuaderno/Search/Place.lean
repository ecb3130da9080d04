import Cuaderno.Text.Fold
import Cuaderno.Text.Piece

/-!
# Places of a term in a text

A term is looked for in the folded form of a text, and its place is given in the text itself, from
the first to the last character that the found part of the folded form comes from.
-/

namespace Cuaderno.Search

/-- The place of a term in a text: the offset of its first character, and the offset behind its
last one. -/
def locate? (term text : List Char) : Option (Nat × Nat) :=
  let folded := Text.foldIndexed text
  (Text.indexOf? term (folded.map (·.1))).map fun i =>
    let origin (j : Nat) : Nat := (folded[j]?.map (·.2)).getD 0
    (origin i, origin (i + term.length - 1) + 1)

/-- A term has a place in a text exactly when it occurs in the folded form. -/
theorem locate?_isSome (term text : List Char) :
    (locate? term text).isSome = Text.occursIn term (Text.foldChars text) := by
  simp [locate?, Text.occursIn, ← Text.map_fst_foldIndexed]

end Cuaderno.Search
