import Cuaderno.Document.Text

/-!
# Choices by name

Some fields of a record take one of a few named choices. A choice is read from its exact name.
-/

namespace Cuaderno

class Choice (α : Type) where
  /-- All members, in order. -/
  members : List α
  /-- The name of a member. -/
  name : α → String
  /-- What the members are called together, for messages. -/
  called : String

namespace Choice

variable {α : Type} [Choice α]

def ofName? (s : String) : Option α := (members : List α).find? (name · == s)

def ofDocument (d : Document) : Except Fault α :=
  let found : Option α := match d with
    | .text s => ofName? s
    | _ => none
  match found with
  | some a => .ok a
  | none => do throw (.invalid (.notAMember (← d.spellShown) (called α)))

def toDocument (a : α) : Document := .text (name a)

end Choice

end Cuaderno
