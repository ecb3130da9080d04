import Cuaderno.CommandLine.Output

/-!
# Layout of the output

Printed things as plain text: marks for styles are left out, and the columns of a table are as wide
as their widest cells.
-/

namespace Cuaderno.CommandLine

def styleMarks : List (List Char) :=
  ["bold", "dim", "red", "yellow", "green"].flatMap fun style =>
    [("[" ++ style ++ "]").toList, ("[/" ++ style ++ "]").toList]

/-- A text without marks for styles; `skip` characters of a mark are still to be left out. -/
def withoutStyles (skip : Nat) : List Char → List Char
  | [] => []
  | c :: cs =>
    match skip with
    | n + 1 => withoutStyles n cs
    | 0 =>
      match styleMarks.find? (·.isPrefixOf (c :: cs)) with
      | some mark => withoutStyles (mark.length - 1) cs
      | none => c :: withoutStyles 0 cs

def plainLine (s : String) : String := String.ofList (withoutStyles 0 s.toList)

def widths (rows : List (List String)) : List Nat :=
  rows.foldl
    (fun ws row => ((row.map String.length).zipIdx).map (fun (n, i) => max n (ws[i]?.getD 0)))
    []

/-- A row with its cells filled up to the widths of their columns. -/
def rowText (ws : List Nat) (row : List String) : String :=
  "  ".intercalate <| row.zipIdx.map fun (cell, i) =>
    cell ++ String.ofList (List.replicate ((ws[i]?.getD 0) - cell.length) ' ')

def Printed.lines : Printed → List String
  | line _ text => [plainLine text]
  | table title header rows =>
    let rows := (header.toList ++ rows).map (·.map plainLine)
    title.toList ++ rows.map (rowText (widths rows))
  | listing text => [text]

def Printed.isError : Printed → Bool
  | line stream _ => stream = .errors
  | _ => false

def usage : String :=
  "cuaderno [-v] COMMAND [ARGUMENTS]\n\n"
  ++ "Commands: search, tags, query, chart, panels, parse, suggest, export, grammar"

end Cuaderno.CommandLine
