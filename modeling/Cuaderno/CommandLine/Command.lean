import Cuaderno.CommandLine.Arguments
import Cuaderno.Panel
import Cuaderno.QuickEntry.Suggestion
import Cuaderno.Search.Ranking

/-!
# Commands

The arguments of the program are options of its own, the name of a command, and the arguments of
that command. All commands but one take a snapshot, given by the path of its file, and a time of
evaluation.
-/

namespace Cuaderno.CommandLine

inductive Action where
  | search (options : Search.Options) (grouped : Bool)
  | tags
  /-- Runs the query of a panel. -/
  | panel (id : String) (limit : Option Int)
  /-- Runs a query, with further conditions as they are written. -/
  | query (query : Query) (filters : List String) (limit : Option Int)
  | chart (panelId : String)
  | panels
  | parse (line : String)
  | suggest (line : String) (cursor : Option Int) (limit : Int)
  /-- Writes the snapshot, to a file if there is a path. -/
  | write (path : Option String)
  deriving DecidableEq, Repr

inductive Command where
  | grammar
  | onSnapshot (path : String) (now : Option Moment) (action : Action)
  deriving DecidableEq, Repr

def helpSwitch : Switch := { name := "help", takes := .nothing }

def programSwitches : List Switch :=
  [{ name := "verbose", letter := some 'v', takes := .nothing }, helpSwitch]

def snapshotSwitches : List Switch :=
  [{ name := "snapshot", letter := some 's', takes := .path },
    { name := "now", takes := .time }, helpSwitch]

/-- How a command on a snapshot is written: its name, its own options, whether it takes an operand,
an option that must not be missing, and what it does with the operand and the values. -/
structure Form where
  name : String
  switches : List Switch := []
  takesOperand : Bool := false
  mandatory : Option String := none
  action : String → Settings → Action

def searchForm : Form where
  name := "search"
  takesOperand := true
  switches := [
    { name := "type", letter := some 't', takes := .texts }, { name := "tag", takes := .texts },
    { name := "blocks-only", takes := .nothing },
    { name := "limit", letter := some 'n', takes := .integer },
    { name := "group", takes := .nothing }]
  action line s :=
    .search
      { line := line, types := s.texts "type", tags := s.texts "tag"
        onlyWithContent := s.has "blocks-only", limit := some ((s.integer? "limit").getD 50) }
      (s.has "group")

def Settings.member? {α : Type} [Choice α] (s : Settings) (name : String) : Option α :=
  (s.text? name).bind Choice.ofName?

/-- The period that the options of the query command give, if they give a bound. -/
def Settings.period? (s : Settings) : Option Period :=
  match s.text? "from", s.text? "to" with
  | none, none => none
  | start, stop =>
    some ⟨(s.text? "date-field").getD "createdAt", .ofText? start, .ofText? stop⟩

def Settings.query (s : Settings) : Query where
  types := s.texts "type"
  preset := s.member? "special"
  period := s.period?
  sortBy := (s.text? "sort-by").getD "updatedAt"
  direction := (s.member? "direction").getD .descending

def queryForm : Form where
  name := "query"
  switches := [
    { name := "panel", letter := some 'p' },
    { name := "type", letter := some 't', takes := .texts },
    { name := "special", takes := .oneOf ((Choice.members : List Preset).map Choice.name) },
    { name := "filter", letter := some 'f', takes := .texts },
    { name := "date-field" }, { name := "from" }, { name := "to" }, { name := "sort-by" },
    { name := "direction", takes := .oneOf ((Choice.members : List Direction).map Choice.name) },
    { name := "limit", letter := some 'n', takes := .integer }]
  action _ s :=
    match s.text? "panel" with
    | some id => .panel id (s.integer? "limit")
    | none => .query s.query (s.texts "filter") (s.integer? "limit")

def suggestForm : Form where
  name := "suggest"
  takesOperand := true
  switches := [
    { name := "cursor", takes := .integer },
    { name := "limit", letter := some 'n', takes := .integer }]
  action line s :=
    .suggest line (s.integer? "cursor") ((s.integer? "limit").getD QuickEntry.defaultLimit)

/-- The form of the export command. An empty path is no path. -/
def exportForm : Form where
  name := "export"
  switches := [
    { name := "format", takes := .oneOfAnyCase ["json"] },
    { name := "output", letter := some 'o' }]
  action _ s := .write ((s.text? "output").filter (· != ""))

def forms : List Form := [
  searchForm,
  { name := "tags", action := fun _ _ => .tags },
  queryForm,
  { name := "chart", switches := [{ name := "panel", letter := some 'p' }]
    mandatory := some "panel", action := fun _ s => .chart ((s.text? "panel").getD "") },
  { name := "panels", action := fun _ _ => .panels },
  { name := "parse", takesOperand := true, action := fun line _ => .parse line },
  suggestForm,
  exportForm]

/-- Whether the number of operands is the one that a command takes. -/
def operandsFit (takesOperand : Bool) (operands : List String) : Bool :=
  operands.length == if takesOperand then 1 else 0

def Form.command (f : Form) (words : List String) : Except Refusal Command := do
  let arguments ← Arguments.ofWords (f.switches ++ snapshotSwitches) false words
  let s ← arguments.settings
  match s.text? "snapshot" with
  | none => throw .usage
  | some path =>
    if f.mandatory.all s.has && operandsFit f.takesOperand arguments.operands then
      return .onSnapshot path (s.moment? "now") (f.action (arguments.operands.head?.getD "") s)
    else throw .usage

def grammarCommand (words : List String) : Except Refusal Command := do
  let arguments ← Arguments.ofWords [helpSwitch] false words
  let _ ← arguments.settings
  if operandsFit false arguments.operands then return .grammar else throw .usage

/-- The command that the words behind the name of the program write. -/
def Command.ofWords (words : List String) : Except Refusal Command := do
  let arguments ← Arguments.ofWords programSwitches true words
  let _ ← arguments.settings
  match arguments.operands with
  | [] => throw .usage
  | name :: words =>
    if name = "grammar" then grammarCommand words
    else
      match forms.find? (·.name = name) with
      | some f => f.command words
      | none => throw .usage

end Cuaderno.CommandLine
