import Cuaderno.Document.JsonWriter
import Cuaderno.Snapshot.Basic

/-!
# Writing snapshots as documents

Every record is written as a mapping with a fixed order of names. Fields that hold nothing are left
out where the reader would put the same thing in their place. What a panel compares with is written
as it was read; a document that has no plain form there is a fault.
-/

namespace Cuaderno

def Property.document (p : Property) : Document :=
  .ofFields <|
    [("id", .text p.id), ("name", .text p.name), ("type", Choice.toDocument p.kind)]
    ++ (if p.options.isEmpty then [] else [("options", .ofTexts p.options)])
    ++ (if p.target.isPresent then [("relationTypeId", p.target)] else [])

def ItemType.document (t : ItemType) : Document :=
  .ofFields [
    ("id", .text t.id), ("name", .text t.name), ("namePlural", .text t.plural),
    ("icon", .text t.icon), ("color", .text t.color),
    ("properties", .list (t.properties.map (·.document)))]

def Link.document (l : Link) : Document := .ofFields [("id", .text l.id), ("title", .text l.title)]

def Moment.document (m : Moment) : Document := .text (String.ofList m.isoText)

def Value.document : Value → Document
  | .text s => .text s
  | .number x => .float x
  | .flag b => .bool b
  | .moment m => m.document
  | .texts items => .ofTexts items
  | .links refs => .list (refs.map (·.document))

def Item.document (item : Item) : Document :=
  .ofFields <| [
    ("id", .text item.id), ("type", .text item.typeId), ("title", .text item.title),
    ("content", .text item.content),
    ("properties", .ofFields (item.properties.map fun (k, v) => (k, v.document))),
    ("tags", .ofTexts item.tags), ("links", .ofTexts item.links),
    ("backlinks", .ofTexts item.backlinks),
    ("createdAt", item.created.document), ("updatedAt", item.updated.document)]
    ++ match item.embedding with
      | some xs => [("embedding", .list (xs.map .float))]
      | none => []

def Condition.valueDocument (c : Condition) : Except Fault Document :=
  match c.value with
  | .value v => .ok v.document
  | .list _ | .map _ | .date _ | .stamp _ => .error .noField
  | d => .ok d

def Condition.document (c : Condition) : Except Fault Document := do
  return .ofFields [("propertyId", .text c.propertyId), ("operator", Choice.toDocument c.operator),
    ("value", ← c.valueDocument)]

/-- A bound of a period as a document: a day or a moment by its text. -/
def Period.boundDocument : Document → Document
  | .date d => .text (String.ofList d.isoText)
  | .stamp s => .text (String.ofList (s.textWith 'T'))
  | d => d

def Period.document (p : Period) : Document :=
  .ofFields [("field", .text p.field), ("start", boundDocument p.start),
    ("end", boundDocument p.stop)]

def Query.document (q : Query) : Except Fault Document := do
  let conditions ← q.conditions.mapM (·.document)
  return .ofFields <| [
    ("types", .ofTexts q.types), ("propertyFilters", .list conditions),
    ("sortBy", .text q.sortBy), ("sortDirection", Choice.toDocument q.direction)]
    ++ (match q.preset with
      | some p => [("specialFilter", Choice.toDocument p)]
      | none => [])
    ++ (match q.period with
      | some p => [("dateRange", p.document)]
      | none => [])

def ChartConfig.document (c : ChartConfig) : Document :=
  .ofFields [
    ("type", Choice.toDocument c.kind), ("groupByProperty", .text c.groupBy),
    ("progressProperty", c.progressBy), ("progressCompletedValue", c.doneValue),
    ("timelineProperty", .text c.timelineBy), ("timelineGroupBy", Choice.toDocument c.grouping),
    ("colors", .ofTexts c.colors)]

def Panel.document (p : Panel) : Except Fault Document := do
  let query ← p.query.document
  return .ofFields <| [
    ("id", .text p.id), ("name", .text p.name), ("icon", .text p.icon), ("color", p.color),
    ("displayMode", Choice.toDocument p.mode), ("maxItems", .int p.maxItems), ("query", query)]
    ++ match p.chart with
      | some c => [("chartConfig", c.document)]
      | none => []

def Snapshot.document (s : Snapshot) : Except Fault Document := do
  let panels ← s.panels.mapM (·.document)
  return .ofFields [
    ("types", .list (s.types.map (·.document))), ("objects", .list (s.items.map (·.document))),
    ("panels", .list panels)]

/-- A snapshot as JSON, indented by a number of spaces for each level, or on one line. -/
def Snapshot.toJson (s : Snapshot) (indent : Option Nat) : Except Fault String := do
  Json.write indent (← s.document)

end Cuaderno
