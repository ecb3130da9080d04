import Cuaderno.Document.Text

/-!
# Writing documents as JSON

A document is written with every item on a line of its own, indented by its depth, or all on one
line. Texts keep every character but quotes, backslashes and controls. Numbers that are not finite
have names. Dates, stamps and values have no JSON form, nor have integers with too many digits.
-/

namespace Cuaderno.Json

open Cuaderno.Text (hexText intText)

def escape (c : Char) : List Char :=
  if c = '"' then ['\\', '"']
  else if c = '\\' then ['\\', '\\']
  else if c = '\n' then ['\\', 'n']
  else if c = '\r' then ['\\', 'r']
  else if c = '\t' then ['\\', 't']
  else if c.toNat = 12 then ['\\', 'f']
  else if c.toNat = 8 then ['\\', 'b']
  else if c.toNat < 32 then '\\' :: 'u' :: hexText 4 c.toNat
  else [c]

def textForm (s : String) : List Char := '"' :: s.toList.flatMap escape ++ ['"']

def numberForm (x : Number) : List Char :=
  if x = .nan then "NaN".toList
  else if x = Number.infinity false then "Infinity".toList
  else if x = Number.infinity true then "-Infinity".toList
  else x.text.toList

def intForm (n : Int) : Except Fault (List Char) :=
  if Document.isShort n then .ok (intText n) else .error (.invalid .tooLong)

def keyForm : Document.Key → Except Fault (List Char)
  | .text s => .ok (textForm s)
  | .int n => do return '"' :: (← intForm n) ++ ['"']
  | .null => .ok "\"null\"".toList

/-- What stands before an item at some depth: a line break and its indentation, or nothing. -/
def lineStart (indent : Option Nat) (depth : Nat) : List Char :=
  match indent with
  | some width => '\n' :: List.replicate (width * depth) ' '
  | none => []

def between (indent : Option Nat) (depth : Nat) : List Char :=
  match indent with
  | some _ => ',' :: lineStart indent depth
  | none => [',', ' ']

def bracketed (indent : Option Nat) (depth : Nat) (opening closing : Char)
    (items : List (List Char)) : List Char :=
  if items.isEmpty then [opening, closing]
  else
    opening :: lineStart indent (depth + 1) ++
      (between indent (depth + 1)).intercalate items ++ lineStart indent depth ++ [closing]

mutual

def form (indent : Option Nat) (depth : Nat) : Document → Except Fault (List Char)
  | .null => .ok "null".toList
  | .bool b => .ok (if b then "true".toList else "false".toList)
  | .int n => intForm n
  | .float x => .ok (numberForm x)
  | .text s => .ok (textForm s)
  | .list items => do
    return bracketed indent depth '[' ']' (← itemForms indent (depth + 1) items)
  | .map entries => do
    return bracketed indent depth '\x7b' '\x7d' (← entryForms indent (depth + 1) entries)
  | .date _ | .stamp _ | .value _ => .error .wrongKind

def itemForms (indent : Option Nat) (depth : Nat) :
    List Document → Except Fault (List (List Char))
  | [] => .ok []
  | d :: ds => do
    let first ← form indent depth d
    return first :: (← itemForms indent depth ds)

def entryForms (indent : Option Nat) (depth : Nat) :
    List (Document.Key × Document) → Except Fault (List (List Char))
  | [] => .ok []
  | (k, d) :: rest => do
    let name ← keyForm k
    let first ← form indent depth d
    return (name ++ ':' :: ' ' :: first) :: (← entryForms indent depth rest)

end

/-- A document as JSON, indented by a number of spaces for each level, or on one line. -/
def write (indent : Option Nat) (d : Document) : Except Fault String := do
  return String.ofList (← form indent 0 d)

end Cuaderno.Json
