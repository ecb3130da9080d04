import Cuaderno.CommandLine.Arguments

/-!
# Output of a command

A command prints lines, tables and listings, may write one file, and ends with an exit code. Lines
and cells may hold marks for styles, such as `[bold]`.
-/

namespace Cuaderno.CommandLine

inductive Stream where
  | output | errors
  deriving DecidableEq, Repr

inductive Printed where
  | line (stream : Stream) (text : String)
  | table (title : Option String) (header : Option (List String)) (rows : List (List String))
  | listing (text : String)
  deriving DecidableEq, Repr

structure Outcome where
  printed : List Printed := []
  exit : Nat := 0
  /-- The path and the text of a file to be written. -/
  file : Option (String × String) := none
  deriving DecidableEq, Repr

def Outcome.failure (stream : Stream) (text : String) : Outcome :=
  { printed := [.line stream text], exit := 1 }

/-- The outcome of a command that fails with a message about an error. -/
def Outcome.error (text : String) : Outcome := failure .errors ("[red]Error:[/red] " ++ text)

def countText (n : Int) : String := String.ofList (Text.intText n)

def countLine (n : Nat) (what : String) : Printed :=
  .line .output ("\n[bold]" ++ countText n ++ "[/bold] " ++ what)

end Cuaderno.CommandLine
