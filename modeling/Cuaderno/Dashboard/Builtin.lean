import Cuaderno.Panel

/-!
# Panels of a new notebook

The panels that a notebook starts with, until it has panels of its own.
-/

namespace Cuaderno.Panel

def builtin : List Panel := [
  { id := "inbox", name := "Bandeja de Entrada", icon := "Inbox", color := .text "#f59e0b"
    query := { preset := some .inbox, sortBy := "createdAt" } },
  { id := "pending_tasks", name := "Tareas Pendientes", icon := "CheckCircle"
    color := .text "#f87171"
    query := {
      types := ["tarea"]
      conditions := [⟨"status", .notEquals, .text "Completada"⟩,
        ⟨"status", .notEquals, .text "Cancelada"⟩]
      sortBy := "dueDate", direction := .ascending } },
  { id := "active_projects", name := "Proyectos Activos", icon := "Target"
    color := .text "#8b5cf6"
    query := { types := ["project"], conditions := [⟨"status", .equals, .text "Activo"⟩] }
    maxItems := 5 },
  { id := "follow_up", name := "Seguimiento", icon := "Eye", color := .text "#10b981"
    query := { conditions := [⟨"seguimiento", .equals, .bool true⟩] }
    maxItems := 5 },
  { id := "orphans", name := "Huérfanos", icon := "Unlink", color := .text "#94a3b8"
    query := { preset := some .orphans, sortBy := "createdAt", direction := .ascending }
    maxItems := 6 },
  { id := "stats_by_type", name := "Estadísticas por Tipo", icon := "PieChart"
    color := .text "#6366f1", mode := .chart, chart := some { kind := .pie } }]

def builtin? (id : String) : Option Panel := builtin.find? (·.id == id)

end Cuaderno.Panel
