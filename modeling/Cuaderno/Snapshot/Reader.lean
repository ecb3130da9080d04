import Cuaderno.Calendar.Clock
import Cuaderno.Calendar.Epoch
import Cuaderno.Calendar.Iso
import Cuaderno.Document.JsonReader
import Cuaderno.Snapshot.Basic

/-!
# Reading snapshots from documents

A document is read record by record, in the order types, items, panels, and the first fault ends
the reading. Fields that are missing take their defaults; a field of another kind of data than the
one that is expected is read as far as its text or its items allow.

The value of a property follows from the document alone, except for texts: the text of a temporal
property is a moment when it writes one.
-/

namespace Cuaderno

/-- The kinds of properties that other programs write, and what they are here. -/
def PropertyKind.synonyms : List (String × PropertyKind) := [
  ("multiselect", .texts), ("tags", .texts), ("rating", .number), ("url", .text),
  ("email", .text), ("image", .text)]

def PropertyKind.read (name : String) : Except Fault PropertyKind :=
  match PropertyKind.synonyms.lookup name with
  | some kind => .ok kind
  | none =>
    match (Choice.ofName? name : Option PropertyKind) with
    | some kind => .ok kind
    | none => .error (.defect (.unknownKind name))

def Document.fieldText (d : Document) (name default : String) : Except Fault String := do
  match ← d.field? name with
  | some v => v.spell
  | none => return default

def Document.fieldTexts (d : Document) (name : String) : Except Fault (List String) := do
  (← d.fieldList name).mapM (·.spell)

def Property.read (d : Document) : Except Fault Property := do
  let id ← (← d.required "property" "id").spell
  let name ← d.fieldText "name" id
  let kind ← PropertyKind.read (← d.fieldText "type" "text")
  let options ← d.fieldTexts "options"
  let target ← d.fieldOrNull "relationTypeId"
  return ⟨id, name, kind, options, target⟩

def ItemType.read (d : Document) : Except Fault ItemType := do
  let id ← (← d.required "object type" "id").spell
  let name ← d.fieldText "name" id
  let plural ← d.fieldText "namePlural" name
  let icon ← d.fieldText "icon" ""
  let color ← d.fieldText "color" ""
  let properties ← (← d.fieldList "properties").mapM Property.read
  match ItemType.make id name plural icon color properties with
  | .ok t => return t
  | .error e => throw (.defect e)

/-- A text with the letter `Z` of universal time written as an offset. -/
def withoutZ (cs : List Char) : List Char :=
  cs.flatMap fun c => if c = 'Z' then ['+', '0', '0', ':', '0', '0'] else [c]

def Moment.readText (s : String) : Except Fault Moment :=
  match Iso.stamp? (withoutZ s.toList) with
  | some stamp => stamp.moment
  | none => .error (.defect (.badTimestamp (shownText s)))

/-- The moment that a document gives: a date, a stamp, milliseconds, or a standard text. -/
def Moment.read : Document → Except Fault Moment
  | .stamp s => s.moment
  | .date d => .ok (.startOf d)
  | .bool b => Epoch.ofMillis (if b then 1 else 0)
  | .int n => Epoch.ofMillis n
  | .float x => Epoch.ofNumber x
  | .text s => Moment.readText s
  | d => do throw (.defect (.badTimestamp (← d.spellShown)))

/-- What a mapping with an id has for the id and for the title of a link; the id stands for a title
when there is none. -/
def Link.parts? : Document → Option (Document × Document)
  | .map entries =>
    (entries.lookup (.text "id")).map fun id => (id, (entries.lookup (.text "title")).getD id)
  | _ => none

def Link.read (parts : Document × Document) : Except Fault Link := do
  return ⟨← parts.1.spell, ← parts.2.spell⟩

def Value.readText (s : String) (property : Option Property) : Except Fault Value :=
  if (property.any (·.kind.isTemporal)) && s != "" then
    match Moment.readText s with
    | .ok m => .ok (.moment m)
    | .error (.defect _) => .ok (.text s)
    | .error e => .error e
  else .ok (.text s)

/-- The value that a document gives to a property; null gives none. -/
def Value.read (d : Document) (property : Option Property) : Except Fault (Option Value) :=
  match d with
  | .null => .ok none
  | .bool b => .ok (some (.flag b))
  | .int n =>
    match Number.ofInt? n with
    | some x => .ok (some (.number x))
    | none => .error .outOfRange
  | .float x => .ok (some (.number x))
  | .stamp _ | .date _ => do return some (.moment (← Moment.read d))
  | .list items =>
    match items.mapM Link.parts? with
    | some (first :: rest) => do return some (.links (← (first :: rest).mapM Link.read))
    | _ => do return some (.texts (← items.mapM (·.spell)))
  | d => do return some (← Value.readText (← d.spell) property)

/-- The number that a document gives as a component of an embedding. -/
def Number.read : Document → Except Fault Number
  | .bool b => .ok (Number.ofNat (if b then 1 else 0))
  | .int n =>
    match Number.ofInt? n with
    | some x => .ok x
    | none => .error .outOfRange
  | .float x => .ok x
  | .text s =>
    match Number.read? s.toList with
    | some x => .ok x
    | none => .error (.invalid .unreadable)
  | _ => .error .wrongKind

/-- The property that an item of a type has under the name of an entry, if its type declares one. -/
def Document.Key.property? (type : Option ItemType) : Key → Option Property
  | .text id => type.bind (·.property? id)
  | _ => none

/-- The properties of an item of a type with what one more entry gives. -/
def Item.readProperty (type : Option ItemType) (properties : List (String × Value))
    (entry : Document.Key × Document) : Except Fault (List (String × Value)) := do
  match ← Value.read entry.2 (entry.1.property? type) with
  | some v => return Fields.put (← entry.1.spell) v properties
  | none => return properties

def Item.readProperties (d : Document) (type : Option ItemType) :
    Except Fault (List (String × Value)) := do
  (← d.entries .noField).foldlM (Item.readProperty type) []

/-- The moment of an entry; null and no entry give the first moment. -/
def Moment.readOrFirst (d : Document) : Except Fault Moment :=
  if d.isNull then .ok .first else Moment.read d

/-- The type with an id among types of which the last counts. -/
def ItemType.last? (types : List ItemType) (id : String) : Option ItemType :=
  types.reverse.find? (·.id == id)

/-- The item that a document describes, its properties read under the given types. -/
def Item.read (types : List ItemType) (d : Document) : Except Fault Item := do
  let id ← (← d.required "object" "id").spell
  let typeId ← (← d.required "object" "type").spell
  let stored ← d.fieldOrNull "properties"
  let properties ← Item.readProperties (if stored.isPresent then stored else .map [])
    (ItemType.last? types typeId)
  let created ← d.fieldOrNull "createdAt"
  let updated := (← d.field? "updatedAt").getD created
  let embedding ← d.fieldOrNull "embedding"
  let title ← d.fieldText "title" ""
  let content ← d.fieldText "content" ""
  let tags ← d.fieldTexts "tags"
  let links ← d.fieldTexts "links"
  let backlinks ← d.fieldTexts "backlinks"
  let created ← Moment.readOrFirst created
  let updated ← Moment.readOrFirst updated
  let embedding ←
    if embedding.isPresent then pure (some (← (← embedding.listed).mapM Number.read))
    else pure none
  return ⟨id, typeId, title, content, properties, tags, links, backlinks, created, updated,
    embedding⟩

def Period.readBound : Document → Except Fault Document
  | .null => .ok .null
  | .text s => .ok (.text s)
  | .stamp s => do return .stamp ⟨← s.moment, none⟩
  | .date d => .ok (.date d)
  | .int n => do return .stamp ⟨← Epoch.ofMillis n, none⟩
  | .float x => do return .stamp ⟨← Epoch.ofNumber x, none⟩
  | d => do throw (.defect (.badBound (← d.spellShown)))

def Period.read (d : Document) : Except Fault Period :=
  match d with
  | .map _ => do
    let field ← d.fieldText "field" "createdAt"
    let start ← Period.readBound (← d.fieldOrNull "start")
    let stop ← Period.readBound (← d.fieldOrNull "end")
    return ⟨field, start, stop⟩
  | d => .error (.defect (.rangeNotAMapping d.kindName))

def Condition.read (d : Document) : Except Fault Condition := do
  let propertyId ← (← d.required "property filter" "propertyId").spell
  let operator ← Choice.ofDocument (← d.required "property filter" "operator")
  let value ← d.fieldOrNull "value"
  return ⟨propertyId, operator, value⟩

/-- Reports an invalid value as the defect of a record. -/
def withDefect {α : Type} (defect : InvalidValue → Defect) (r : Except Fault α) :
    Except Fault α :=
  match r with
  | .error (.invalid cause) => .error (.defect (defect cause))
  | r => r

def Query.read (d : Document) : Except Fault Query := withDefect .badQuery do
  let preset ← d.fieldOrNull "specialFilter"
  let period ← d.fieldOrNull "dateRange"
  let types ← d.fieldTexts "types"
  let preset ← if preset.isPresent then some <$> Choice.ofDocument preset else pure none
  let conditions ← (← d.fieldList "propertyFilters").mapM Condition.read
  let period ← if period.isPresent then some <$> Period.read period else pure none
  let sortBy ← d.fieldText "sortBy" "updatedAt"
  let direction ← Choice.ofDocument ((← d.field? "sortDirection").getD (.text "desc"))
  return ⟨types, preset, conditions, period, sortBy, direction⟩

def ChartConfig.read (d : Document) : Except Fault ChartConfig := withDefect .badChart do
  let kind ← Choice.ofDocument (← d.required "chart config" "type")
  let groupBy ← d.fieldText "groupByProperty" "type"
  let progressBy ← d.fieldOrNull "progressProperty"
  let doneValue ← d.fieldOrNull "progressCompletedValue"
  let timelineBy ← d.fieldText "timelineProperty" "createdAt"
  let grouping ← Choice.ofDocument ((← d.field? "timelineGroupBy").getD (.text "day"))
  let colors ← d.fieldTexts "colors"
  return ⟨kind, groupBy, progressBy, doneValue, timelineBy, grouping, colors⟩

/-- The integer that a document gives: a number without its fraction, or the text of one. -/
def Document.integer : Document → Except Fault Int
  | .bool b => .ok (if b then 1 else 0)
  | .int n => .ok n
  | .float x =>
    match x.truncate? with
    | some n => .ok n
    | none => if x = .nan then .error (.invalid .unreadable) else .error .outOfRange
  | .text s =>
    match Number.readInt? s.toList with
    | some n => .ok n
    | none => .error (.invalid .unreadable)
  | _ => .error .wrongKind

def DisplayMode.read (d : Document) : Except Fault DisplayMode :=
  match (Choice.ofDocument d : Except Fault DisplayMode) with
  | .ok mode => .ok mode
  | .error _ => do throw (.defect (.badDisplayMode (← d.spellShown)))

def Panel.read (d : Document) : Except Fault Panel := do
  let id ← (← d.required "panel" "id").spell
  let chart ← d.fieldOrNull "chartConfig"
  let mode ← DisplayMode.read ((← d.field? "displayMode").getD (.text "list"))
  let name ← d.fieldText "name" id
  let query ← d.fieldOrNull "query"
  let query ← Query.read (if query.isPresent then query else .map [])
  let icon ← d.fieldText "icon" ""
  let color ← d.fieldOrNull "color"
  let chart ← if chart.isPresent then some <$> ChartConfig.read chart else pure none
  let maxItems ← ((← d.field? "maxItems").getD (.int 8)).integer
  return ⟨id, name, query, icon, color, mode, chart, maxItems⟩

def Snapshot.read (d : Document) : Except Fault Snapshot :=
  match d with
  | .map _ => do
    let types ← (← d.fieldList "types").mapM ItemType.read
    let items ← (← d.fieldList "objects").mapM (Item.read types)
    let panels ← (← d.fieldList "panels").mapM Panel.read
    return ⟨types, items, panels⟩
  | _ => .error (.defect .notAMapping)

def Snapshot.ofJson (s : String) : Except Fault Snapshot := do
  Snapshot.read (← Json.read s)

end Cuaderno
