import Cuaderno.CommandLine.Output
import Cuaderno.Dashboard.Chart
import Cuaderno.QuickEntry.Intent
import Cuaderno.QuickEntry.Suggestion
import Cuaderno.Search.Groups

/-!
# Tables of answers

How the answers of the commands are laid out as tables.
-/

namespace Cuaderno.CommandLine

def typeLabel (catalog : Catalog) (typeId : String) : String :=
  let t := catalog.display typeId
  String.ofList (Text.trim (t.icon ++ " " ++ t.name).toList)

def itemTable (title : String) (catalog : Catalog) (items : List Item) : Printed :=
  .table title (some ["Id", "Type", "Title", "Updated"]) <| items.map fun item =>
    [item.id, typeLabel catalog item.typeId, item.title, String.ofList item.updated.minuteText]

/-- The places of the matches of a result, with the text that each marks. -/
def matchText (r : Search.Result) : String :=
  ", ".intercalate (r.found.map fun m => m.field.name ++ ":" ++ m.marked)

def resultTable (title : String) (catalog : Catalog) (results : List Search.Result) : Printed :=
  .table title (some ["Score", "Title", "Type", "Matches"]) <| results.map fun r =>
    [r.score.tableText, r.item.title, (catalog.display r.item.typeId).name, matchText r]

/-- A color with a sample of it; nothing when there is no color. -/
def swatch (color : Document) : String :=
  if color.isPresent then
    let name := color.plain
    "[" ++ name ++ "]■[/" ++ name ++ "] " ++ name
  else ""

def pointTable (title : String) (points : List ChartPoint) : Printed :=
  .table title (some ["Name", "Value", "Color"]) <| points.map fun p =>
    [p.name, p.value.tableText, swatch p.color]

def chartTable (title : String) : ChartData → Printed
  | .points points => pointTable title points
  | .timeline [] => pointTable title []
  | .timeline points =>
    .table title (some ["Date", "Count"]) <| points.map fun p => [p.date, countText p.count]

def intentTable (i : QuickEntry.Intent) : Printed :=
  let row (name text : String) := ["[bold]" ++ name ++ "[/bold]", text]
  let existing := match i.existing with
    | some id => if id = "" then [] else [row "Existing" id]
    | none => []
  let preview :=
    if i.typed.isEmpty then [] else [row "Preview" (QuickEntry.preview i.typed i.type)]
  .table none none <|
    [row "Intent" (if i.existing.isSome then "update" else "create"),
      row "Type" ((i.type.map (·.name)).getD "[dim](unresolved)[/dim]"),
      row "Name" i.name]
    ++ existing ++ preview
    ++ i.properties.map fun (id, v) =>
      ["  " ++ id, v.display ++ " [dim](" ++ v.kindName ++ ")[/dim]"]

def suggestionTable (s : QuickEntry.Suggestions) : Printed :=
  .table (s.property ++ " = " ++ s.typed ++ "…") (some ["Id", "Title", "Type"]) <|
    s.items.map fun item =>
      let typeName := item.typeName.getD ""
      [item.id, item.title, if typeName = "" then item.typeId else typeName]

end Cuaderno.CommandLine
