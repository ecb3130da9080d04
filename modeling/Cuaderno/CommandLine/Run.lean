import Cuaderno.CommandLine.Command
import Cuaderno.CommandLine.Filter
import Cuaderno.CommandLine.Folder
import Cuaderno.CommandLine.Report
import Cuaderno.Dashboard.Builtin
import Cuaderno.QuickEntry.Grammar
import Cuaderno.Search.Tags
import Cuaderno.Snapshot.Reader
import Cuaderno.Snapshot.Writer

/-!
# Carrying out commands

What each command prints. A command is a function of the text of its snapshot and of the clock: the
file is read before and the output written after.
-/

namespace Cuaderno.CommandLine

/-- Carries on with the snapshot of a file, or fails with the reason why there is none. -/
def withSnapshot (path : String) (text : Except PathFault String)
    (go : Snapshot → Except Refusal Outcome) : Except Refusal Outcome :=
  let broken (kind message : String) : Outcome :=
    .failure .errors ("[red]" ++ kind ++ " error[/red] in " ++ path ++ ": " ++ message)
  match text with
  | .error .notFound => .ok (.error ("File not found: " ++ path))
  | .error e => .ok (.error ("Cannot read " ++ path ++ ": " ++ e.message))
  | .ok text =>
    match Snapshot.ofJson (String.ofList (withLineFeeds text.toList)) with
    | .ok s => go s
    | .error (.defect d) => .ok (broken "Schema" d.message)
    | .error (.badSyntax f) => .ok (broken "Syntax" f.message)
    | .error f => .error (.fault f)

def answer {α : Type} : Except Fault α → Except Refusal α
  | .ok a => .ok a
  | .error f => .error (.fault f)

/-- Carries on with a panel of the snapshot, or else with one that every notebook has. -/
def withPanel (s : Snapshot) (id : String) (go : Panel → Except Refusal Outcome) :
    Except Refusal Outcome :=
  match (s.panels.find? (·.id == id)).or (Panel.builtin? id) with
  | some p => go p
  | none => .ok (.error ("Unknown panel: " ++ id))

/-- Searches, and prints the results in one table or in one for each type. -/
def runSearch (o : Search.Options) (grouped : Bool) (s : Snapshot) : Outcome :=
  let catalog := s.catalog
  match Search.search {} catalog o s.items with
  | [] => { printed := [.line .output ("[yellow]No results[/yellow] for " ++ shownText o.line)] }
  | results =>
    let tables :=
      if grouped then
        (Search.groups catalog results).map fun (typeId, results) =>
          resultTable (catalog.display typeId).name catalog results
      else [resultTable ("Search: " ++ o.line) catalog results]
    { printed := tables ++ [countLine results.length "result(s)"] }

def runTags (s : Snapshot) : Outcome :=
  match Search.allTags s.items with
  | [] => { printed := [.line .output "[yellow]No tags[/yellow]"] }
  | tags => { printed := tags.map fun tag => .line .output ("#" ++ tag) }

/-- Runs a query, and prints the first items and the number of all. -/
def runQuery (title : String) (q : Query) (limit : Option Int) (s : Snapshot) (clock : Clock) :
    Except Refusal Outcome := do
  let catalog := s.catalog
  let items ← answer (q.run catalog s.items clock recentDays)
  let shown := match limit with
    | some n => items.take n.toNat
    | none => items
  return { printed := [itemTable title catalog shown,
    countLine items.length "matching object(s)"] }

def filters (texts : List String) : Except Refusal (List Condition) :=
  match texts.mapM filter with
  | .ok conditions => .ok conditions
  | .error _ => .error .usage

def runChart (p : Panel) (s : Snapshot) (clock : Clock) : Except Refusal Outcome :=
  match p.chart with
  | none => .ok (.error ("Panel " ++ shownText p.id ++ " has no chart configuration"))
  | some c => do
    let data ← answer (p.chartData s.catalog s.items clock Dashboard.maxBuckets)
    return { printed := [chartTable (p.name ++ " (" ++ Choice.name c.kind ++ ")") data] }

/-- Prints the panels, each with the number of items that it selects. -/
def runPanels (s : Snapshot) (clock : Clock) : Except Refusal Outcome := do
  let catalog := s.catalog
  let panels := if s.panels.isEmpty then Panel.builtin else s.panels
  let rows ← panels.mapM fun p => do
    let items ← answer (p.query.run catalog s.items clock recentDays)
    return [p.id, p.name, Choice.name p.mode, countText items.length]
  return { printed := [.table "Panels" (some ["Id", "Name", "Mode", "Matches"]) rows] }

def runParse (line : String) (s : Snapshot) (clock : Clock) : Except Refusal Outcome := do
  match ← answer (QuickEntry.intent line s.catalog s.items clock) with
  | none =>
    return .failure .output "[yellow]Not a command[/yellow]: the text would be searched as-is"
  | some i =>
    let warnings := i.warnings.map fun w => Printed.line .errors ("[yellow]Warning:[/yellow] " ++ w)
    return { printed := intentTable i :: warnings }

def runSuggest (line : String) (cursor : Option Int) (limit : Int) (s : Snapshot) : Outcome :=
  match QuickEntry.suggest line s.catalog s.items limit cursor with
  | none => { printed := [.line .output "[yellow]No relation value is being typed[/yellow]"] }
  | some found =>
    let place := "[dim]insert at offset " ++ countText found.insertAt ++ "[/dim]"
    { printed := [suggestionTable found, .line .output place] }

def runWrite (path : Option String) (s : Snapshot) : Except Refusal Outcome := do
  let text ← answer (s.toJson (some 2))
  match path with
  | none => return { printed := [.listing text] }
  | some path =>
    if '\x00' ∈ path.toList then throw (.fault (.invalid .unreadable))
    return {
      printed := [.line .output ("[green]Snapshot written to[/green] " ++ path)]
      file := some (path, text) }

def Action.run (a : Action) (s : Snapshot) (clock : Clock) : Except Refusal Outcome :=
  match a with
  | .search o grouped => .ok (runSearch o grouped s)
  | .tags => .ok (runTags s)
  | .panel id limit =>
    withPanel s id fun p => runQuery p.name p.query (limit.getD p.maxItems) s clock
  | .query q texts limit => do
    runQuery "Query" { q with conditions := ← filters texts } limit s clock
  | .chart id => withPanel s id fun p => runChart p s clock
  | .panels => runPanels s clock
  | .parse line => runParse line s clock
  | .suggest line cursor limit => .ok (runSuggest line cursor limit s)
  | .write path => runWrite path s

def Command.path? : Command → Option String
  | grammar => none
  | onSnapshot path _ _ => some path

/-- Carries out a command, given the text of the file that it reads and the wall clock. -/
def Command.run (c : Command) (text : Except PathFault String) (wall : Moment) :
    Except Refusal Outcome :=
  match c with
  | grammar =>
    .ok { printed := [.listing (String.ofList (Text.trim QuickEntry.grammar.toList))] }
  | onSnapshot path now action =>
    withSnapshot path text fun s => action.run s ⟨now.map (⟨·, none⟩), wall⟩

def run (words : List String) (folder : Folder) (wall : Moment) : Except Refusal Outcome := do
  let c ← Command.ofWords words
  c.run (folder.read (c.path?.getD "")) wall

end Cuaderno.CommandLine
