import Cuaderno.Fields
import Cuaderno.Text.Blank
import Cuaderno.Text.Digit
import Cuaderno.Text.Piece

/-!
# Search requests

A search line mixes free text with filters: `/type`, `#tag` and `property:value`. It is cut into
tokens at blanks, but not inside a pair of double quotes. A quote that no other one follows cuts
too, and is dropped.
-/

namespace Cuaderno.Search

/-- Splits off the characters up to the first blank or lone quote; quoted pairs are kept whole. -/
def tokenAndRest (cs : List Char) : List Char × List Char :=
  match cs with
  | [] => ([], [])
  | c :: cs =>
    if Text.isBlank c then ([], c :: cs)
    else if c = '"' then
      match _h : cs.dropWhile (· != '"') with
      | [] => ([], c :: cs)
      | q :: rest =>
        let (token, rest) := tokenAndRest rest
        (c :: cs.takeWhile (· != '"') ++ q :: token, rest)
    else
      let (token, rest) := tokenAndRest cs
      (c :: token, rest)
termination_by cs.length
decreasing_by
  · have := (List.dropWhile_suffix (· != '"') (l := cs)).length_le
    simp only [_h, List.length_cons] at this ⊢
    omega
  · simp

theorem tokenAndRest_append (cs : List Char) :
    (tokenAndRest cs).1 ++ (tokenAndRest cs).2 = cs := by
  fun_induction tokenAndRest cs with
  | case1 => rfl
  | case2 => rfl
  | case3 => rfl
  | case4 =>
    rename_i cs q rest h _ _ hr _ ih
    rw [hr] at ih
    have hq : cs.takeWhile (· != '"') ++ q :: rest = cs := by
      rw [← h, List.takeWhile_append_dropWhile]
    simp only [List.cons_append, List.append_assoc, ih, hq]
  | case5 => simp_all

def tokens (cs : List Char) : List (List Char) :=
  match cs with
  | [] => []
  | c :: cs =>
    match _h : tokenAndRest (c :: cs) with
    | ([], _) => tokens cs
    | (t :: token, rest) => (t :: token) :: tokens rest
termination_by cs.length
decreasing_by
  · simp
  · have := congrArg List.length (tokenAndRest_append (c :: cs))
    simp only [_h, List.length_append, List.length_cons] at this ⊢
    omega

def unquoted (cs : List Char) : List Char :=
  if 2 ≤ cs.length && cs.head? = some '"' && cs.getLast? = some '"' then (cs.drop 1).dropLast
  else cs

inductive Part where
  | type (word : String)
  | tag (word : String)
  | property (name value : String)
  | free (text : String)
  deriving DecidableEq, Repr

/-- The name and the value of a token of the form `name:value`. Times and addresses have no name:
a name is not made of digits alone, and a value does not start with two slashes. -/
def nameAndValue? (cs : List Char) : Option (List Char × List Char) :=
  let name := cs.takeWhile fun c => c != ':' && c != '"'
  match cs.dropWhile fun c => c != ':' && c != '"' with
  | ':' :: value =>
    if name.isEmpty || value.isEmpty || value.contains '\n' then none
    else if name.all Text.isDigitCharacter || ['/', '/'].isPrefixOf value then none
    else some (name, value)
  | _ => none

/-- What a token stands for: its first character or its form decides. -/
def Part.ofToken (token : List Char) : Part :=
  let text (cs : List Char) := String.ofList (unquoted cs)
  match token with
  | '/' :: c :: rest => .type (text (c :: rest))
  | '#' :: c :: rest => .tag (text (c :: rest))
  | _ =>
    match nameAndValue? token with
    | some (name, value) => .property (String.ofList name) (text value)
    | none => .free (text token)

/-- A search request: free text and filters. -/
structure Request where
  text : String
  types : List String
  tags : List String
  properties : List (String × String)
  deriving DecidableEq, Repr

def Request.plain (text : String) : Request := ⟨text, [], [], []⟩

def parts (s : String) : List Part := (tokens s.toList).map Part.ofToken

/-- The request that a search line writes. Of values for one property the last counts. -/
def Request.ofLine (s : String) : Request :=
  let ps := parts s
  { text := " ".intercalate (ps.filterMap fun | .free text => some text | _ => none)
    types := ps.filterMap fun | .type word => some word | _ => none
    tags := ps.filterMap fun | .tag word => some word | _ => none
    properties :=
      Fields.ofList (ps.filterMap fun | .property name value => some (name, value) | _ => none) }

def Request.terms (r : Request) : List String := (Text.words r.text.toList).map String.ofList

end Cuaderno.Search
