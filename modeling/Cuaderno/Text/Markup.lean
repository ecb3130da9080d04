import Cuaderno.Text.Blank

/-!
# Plain text of marked-up content

A tag runs from a `<` to the next `>`; a `<` that no `>` follows is text. The plain text of a
content has each tag replaced by a space and each run of blanks by one space, without outer blanks.
-/

namespace Cuaderno.Text

/-- The content with each tag replaced by a space. -/
def withoutTags (cs : List Char) : List Char :=
  match cs with
  | [] => []
  | c :: cs =>
    if c = '<' then
      match _h : cs.dropWhile (· != '>') with
      | [] => c :: cs
      | _ :: rest => ' ' :: withoutTags rest
    else c :: withoutTags cs
termination_by cs.length
decreasing_by
  · have := (List.dropWhile_suffix (· != '>') (l := cs)).length_le
    simp only [_h, List.length_cons] at this ⊢
    omega
  · simp

/-- The words of a content outside its tags, with one space between them. -/
def plainText (cs : List Char) : List Char := [' '].intercalate (words (withoutTags cs))

end Cuaderno.Text
