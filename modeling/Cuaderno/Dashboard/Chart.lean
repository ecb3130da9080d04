import Cuaderno.Calendar.Span
import Cuaderno.Dashboard.Selection

/-!
# Charts

A chart sums up the items that the query of a panel selects. Pies and bars count the items of each
bucket, the largest buckets first, and fold the smallest ones into one; a progress tells how many
percent of the items are done; a timeline counts the items of each day, week or month; a count is
the number of items.
-/

namespace Cuaderno

/-- A point of a chart: a name, a value and perhaps a color. -/
structure ChartPoint where
  name : String
  value : Number
  color : Document
  deriving DecidableEq, Repr

/-- A point of a timeline: a day or a month, and the number of items. -/
structure TimelinePoint where
  date : String
  count : Nat
  deriving DecidableEq, Repr

inductive ChartData where
  | points (ps : List ChartPoint)
  | timeline (ps : List TimelinePoint)
  deriving DecidableEq, Repr

namespace Dashboard

/-- How many buckets a chart keeps, when no other number is given. -/
def maxBuckets : Int := 8

def palette : List String := [
  "#6366f1", "#8b5cf6", "#ec4899", "#f43f5e", "#f97316", "#eab308", "#22c55e", "#10b981",
  "#06b6d4", "#3b82f6"]

def emptyBucket : String := "Sin valor"

/-- The name of a bucket for a value. -/
def bucketOf (v : Option Value) : String :=
  match v with
  | some v => if v.isEmpty then emptyBucket else v.display
  | none => emptyBucket

def groupBy (c : ChartConfig) : String := if c.groupBy = "" then "type" else c.groupBy

/-- The bucket of an item: the name of its type, or the text of the value that it has. -/
def bucketName (c : ChartConfig) (catalog : Catalog) (item : Item) : String :=
  if groupBy c = "type" then
    match catalog.type? item.typeId with
    | some t => if t.name = "" then item.typeId else t.name
    | none => item.typeId
  else bucketOf (item.value? (groupBy c))

def typeColor? (c : ChartConfig) (catalog : Catalog) (items : List Item) (bucket : String) :
    Option String :=
  if groupBy c = "type" then
    items.findSome? fun item =>
      match catalog.type? item.typeId with
      | some t => if t.color ≠ "" && bucketName c catalog item = bucket then some t.color else none
      | none => none
  else none

/-- How often each text of a list occurs, in the order in which they first come. -/
def tally (texts : List String) : List (String × Nat) :=
  texts.foldl (fun acc s => Fields.put s ((acc.lookup s).getD 0 + 1) acc) []

def paletteColor (c : ChartConfig) (i : Nat) : String :=
  match c.colors[i]? with
  | some color => color
  | none => palette[i % palette.length]?.getD ""

def rankedBuckets (c : ChartConfig) (catalog : Catalog) (items : List Item) :
    List (String × Nat) :=
  (tally (items.map (bucketName c catalog))).mergeSort fun a b => b.2 ≤ a.2

/-- The points of a pie or a bar chart with at most some number of buckets of their own. -/
def bucketPoints (c : ChartConfig) (catalog : Catalog) (items : List Item) (limit : Int) :
    List ChartPoint :=
  let ranked := rankedBuckets c catalog items
  let cut := Text.bound ranked.length limit
  let kept := (ranked.take cut).zipIdx.map fun ((name, n), i) =>
    let color := (typeColor? c catalog items name).getD (paletteColor c i)
    ⟨name, Number.ofNat n, .text color⟩
  let rest := (ranked.drop cut).map (·.2)
  if rest.isEmpty then kept
  else kept ++ [⟨"Otros", Number.ofNat (rest.foldl (· + ·) 0), .text "#94a3b8"⟩]

def doneValues : List String := [
  "completada", "completado", "hecha", "hecho", "terminada", "terminado", "done", "completed"]

/-- The key of a document that should be a text: of its characters, or of the texts that it
lists. -/
def documentKey (d : Document) : Except Fault String := do
  let texts ← (← d.listed).mapM fun
    | .text s => .ok s
    | _ => .error .noField
  return String.ofList (Text.trim (texts.flatMap fun s => Text.foldChars s.toList))

/-- The value of the property that says whether an item is done; a list names no property. -/
def progressValue? (c : ChartConfig) (item : Item) : Except Fault (Option Value) :=
  if c.progressBy.isPresent then
    match c.progressBy with
    | .text id => .ok (item.value? id)
    | .list _ | .map _ => .error .wrongKind
    | _ => .ok none
  else .ok (item.value? "status")

def isDone (done : List String) (v : Option Value) : Bool :=
  match v with
  | some (.texts items) => items.any fun s => done.contains (Text.key s)
  | some v => !v.isEmpty && done.contains (Text.key v.display)
  | none => false

/-- Percent of a count, rounded to the nearest whole; a half is rounded up. -/
def percent (part whole : Nat) : Nat := if whole = 0 then 0 else (200 * part + whole) / (2 * whole)

def progressPoints (c : ChartConfig) (items : List Item) : Except Fault (List ChartPoint) := do
  let done ← if c.doneValue.isPresent then do pure [← documentKey c.doneValue] else pure doneValues
  let values ← items.mapM (progressValue? c)
  let p := percent (values.countP (isDone done)) items.length
  return [⟨"Completado", Number.ofNat p, .text "#22c55e"⟩,
    ⟨"Pendiente", Number.ofNat (100 - p), .text "#e5e7eb"⟩]

/-- The moment of an item on a timeline. Texts are read by the wall clock. -/
def timelineMoment (item : Item) (id : String) (clock : Clock) : Except Fault (Option Moment) :=
  if id = "createdAt" then .ok (some item.created)
  else if id = "updatedAt" then .ok (some item.updated)
  else
    match item.value? id with
    | some (.moment m) => .ok (some m)
    | some (.text s) => Written.moment s.toList clock.wallOnly
    | _ => .ok none

/-- The day, the first day of the week, or the month of a moment. -/
def timelineDate (g : Grouping) (m : Moment) : Except Fault String :=
  match g with
  | .day => .ok (String.ofList m.date.isoText)
  | .week =>
    match m.date.weekStart? with
    | some d => .ok (String.ofList d.isoText)
    | none => .error .outOfRange
  | .month => .ok (String.ofList (m.date.isoText.take 7))

def timelinePoints (c : ChartConfig) (items : List Item) (clock : Clock) :
    Except Fault (List TimelinePoint) := do
  let id := if c.timelineBy = "" then "createdAt" else c.timelineBy
  let dates ← items.filterMapM fun item => do
    match ← timelineMoment item id clock with
    | some m => return some (← timelineDate c.grouping m)
    | none => return none
  let sorted := (tally dates).mergeSort fun a b => a.1 ≤ b.1
  return sorted.map fun (date, n) => ⟨date, n⟩

end Dashboard

/-- The data of the chart of a panel; no points when it has none. -/
def Panel.chartData (p : Panel) (catalog : Catalog) (items : List Item) (clock : Clock)
    (limit : Int) : Except Fault ChartData :=
  match p.chart with
  | none => .ok (.points [])
  | some c => do
    let items ← p.query.run catalog items clock recentDays
    match c.kind with
    | .count => return .points [⟨p.name, Number.ofNat items.length, p.color⟩]
    | .progress => return .points (← Dashboard.progressPoints c items)
    | .timeline => return .timeline (← Dashboard.timelinePoints c items clock)
    | .pie | .bar => return .points (Dashboard.bucketPoints c catalog items limit)

end Cuaderno
