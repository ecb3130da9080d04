import Cuaderno.Text.Blank

/-!
# Tokens of a quick entry

A line of quick entry is cut into signs (`@`, `/`, `>`, `=`), runs of blanks and runs of anything
else. The lexemes of the tokens, in order, are the line, and each token knows at which character it
starts.
-/

namespace Cuaderno.QuickEntry

inductive TokenKind where
  | at | slash | greater | equals | text | blank | stop
  deriving DecidableEq, Repr

/-- A token: its kind, its characters, and the offset of the first of them. -/
structure Token where
  kind : TokenKind
  lexeme : List Char
  offset : Nat
  deriving DecidableEq, Repr

def Token.stop (t : Token) : Nat := t.offset + t.lexeme.length

def kindOf (c : Char) : TokenKind :=
  if c = '@' then .at
  else if c = '/' then .slash
  else if c = '>' then .greater
  else if c = '=' then .equals
  else if Text.isBlank c then .blank
  else .text

/-- Whether tokens of a kind take all neighbouring characters of that kind. -/
def TokenKind.isRun (k : TokenKind) : Bool := k = .text || k = .blank

def TokenKind.goesOn (k : TokenKind) (c : Char) : Bool := k.isRun && kindOf c = k

def tokensFrom (offset : Nat) (cs : List Char) : List Token :=
  match cs with
  | [] => [⟨.stop, [], offset⟩]
  | c :: cs =>
    let k := kindOf c
    let run := c :: cs.takeWhile k.goesOn
    ⟨k, run, offset⟩ :: tokensFrom (offset + run.length) (cs.dropWhile k.goesOn)
termination_by cs.length
decreasing_by
  have := (List.dropWhile_suffix (kindOf c).goesOn (l := cs)).length_le
  simp only [List.length_cons]
  omega

/-- The tokens of a line, with one of kind `stop` at the end. -/
def tokenize (s : String) : List Token := tokensFrom 0 s.toList

end Cuaderno.QuickEntry
