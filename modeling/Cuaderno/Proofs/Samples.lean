import Cuaderno.Calendar.Clock
import Cuaderno.Panel
import Cuaderno.QuickEntry.Suggestion

/-!
# Sample data

The notebooks, queries and lines that theorems of more than one module are applied to: shifts and
tasks with a day, the leaves and the entries of a diary, errands and calls, and a document with a
record of each kind.
-/

namespace Cuaderno

namespace Dashboard

def shifts : Catalog where
  types := [{
    id := "shift"
    name := "Turno"
    plural := "Turnos"
    icon := ""
    color := ""
    properties := [⟨"hours", "Horas", .number, [], .null⟩]
    id_ne := by decide
    distinct := by decide }]
  distinct := by decide

def morningShift : Item where
  id := "a"
  typeId := "shift"
  title := "Mañana"
  content := ""
  properties := [("hours", .number (Number.ofNat 3))]
  tags := []
  links := []
  backlinks := []
  created := Moment.first
  updated := Moment.first
  embedding := none

def evaluation : Moment := .startOf ⟨2030, 5, 12, by decide⟩

def evaluationClock : Clock := ⟨some ⟨evaluation, none⟩, evaluation⟩

def dueTasks : Catalog where
  types := [{
    id := "task"
    name := "Tarea"
    plural := "Tareas"
    icon := ""
    color := ""
    properties := [⟨"due", "Fecha", .date, [], .null⟩]
    id_ne := by decide
    distinct := by decide }]
  distinct := by decide

def taskDue (day : String) : Item where
  id := "a"
  typeId := "task"
  title := "Comprar pan"
  content := ""
  properties := [("due", .text day)]
  tags := []
  links := []
  backlinks := []
  created := Moment.first
  updated := Moment.first
  embedding := none

def today : Moment := .startOf ⟨2031, 3, 9, by decide⟩

def entry (created : Moment) (properties : List (String × Value)) : Item where
  id := "a"
  typeId := "entry"
  title := ""
  content := ""
  properties := properties
  tags := []
  links := []
  backlinks := []
  created := created
  updated := created
  embedding := none

def diaryChart (property : String) (grouping : Grouping) : ChartConfig where
  kind := .timeline
  timelineBy := property
  grouping := grouping

def diaryPanel (property : String) (grouping : Grouping) : Panel where
  id := "p"
  name := "p"
  chart := some (diaryChart property grouping)

def mayClock : Clock :=
  ⟨some ⟨.startOf ⟨2024, 5, 15, by decide⟩, none⟩, .startOf ⟨2024, 5, 15, by decide⟩⟩

end Dashboard

def Query.undatedTask : Item := { Dashboard.taskDue "" with id := "b", properties := [] }

def Panel.leaf (id typeId : String) : Item where
  id := id
  typeId := typeId
  title := id
  content := ""
  properties := []
  tags := []
  links := []
  backlinks := []
  created := Moment.first
  updated := Moment.first
  embedding := none

/-- A pie of all leaves by type, in the order in which they stand. -/
def Panel.leafPanel : Panel where
  id := "p"
  name := "p"
  query := { sortBy := "orden" }
  chart := some { kind := .pie }

def Document.tasks : Document := .ofFields [
  ("types", .list [.ofFields [("id", .text "task"),
    ("properties", .list [
      .ofFields [("id", .text "due"), ("type", .text "date")],
      .ofFields [("id", .text "tags"), ("type", .text "tags"),
        ("relationTypeId", .text "tag")]])]]),
  ("objects", .list [.ofFields [("id", .text "a"), ("type", .text "task"),
    ("properties", .ofFields [("due", .text "2024-03-01"), ("done", .bool true),
      ("tags", .list [.ofFields [("id", .text "x")]])])]]),
  ("panels", .list [.ofFields [("id", .text "p"),
    ("query", .ofFields [
      ("propertyFilters", .list [.ofFields [("propertyId", .text "done"),
        ("operator", .text "equals"), ("value", .bool true)]]),
      ("dateRange", .ofFields [("field", .text "due"), ("start", .text "2024-01-01")])])]])]

namespace QuickEntry

def errand : ItemType where
  id := "errand"
  name := "Recado"
  plural := "Recados"
  icon := ""
  color := ""
  properties := [⟨"due", "Fecha", .date, [], .null⟩, ⟨"with", "Gente", .relation, [], .null⟩]
  id_ne := by decide
  distinct := by decide

def person (id title : String) : Item where
  id := id
  typeId := "person"
  title := title
  content := ""
  properties := []
  tags := []
  links := []
  backlinks := []
  created := Moment.first
  updated := Moment.first
  embedding := none

def people : Property := ⟨"people", "Gente", .relation, [], .null⟩

def call : ItemType where
  id := "call"
  name := "Llamada"
  plural := "Llamadas"
  icon := ""
  color := ""
  properties := [⟨"day", "Fecha", .date, [], .null⟩, people]
  id_ne := by decide
  distinct := by decide

def calls : Catalog := ⟨[call], by decide⟩

def suggested (id title : String) : Suggestion := ⟨id, title, "person", none, none⟩

def callTo (typed : String) : String := "@llamada/Saludar > gente = " ++ typed

def callProgress (typed : String) : Progress :=
  ⟨.value, 26, "llamada", "Saludar", some "gente", [("gente", typed)]⟩

end QuickEntry

end Cuaderno
