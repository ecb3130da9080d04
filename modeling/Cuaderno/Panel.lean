import Cuaderno.Choice

/-!
# Panels of the dashboard

A panel shows the items that a query selects, as a list or as a chart. A query keeps some types of
items, then the items of a preset, then those that meet all conditions and lie in a period, and
sorts what is left.
-/

namespace Cuaderno

inductive Preset where
  | orphans | inbox | recentlyModified | favorites
  deriving DecidableEq, Repr

instance : Choice Preset where
  members := [.orphans, .inbox, .recentlyModified, .favorites]
  name
    | .orphans => "orphans"
    | .inbox => "inbox"
    | .recentlyModified => "recently_modified"
    | .favorites => "favorites"
  called := "SpecialFilter"

inductive Operator where
  | equals | notEquals | contains | isEmpty | notEmpty | greater | less | atLeast | atMost
  deriving DecidableEq, Repr

instance : Choice Operator where
  members :=
    [.equals, .notEquals, .contains, .isEmpty, .notEmpty, .greater, .less, .atLeast, .atMost]
  name
    | .equals => "equals"
    | .notEquals => "not_equals"
    | .contains => "contains"
    | .isEmpty => "is_empty"
    | .notEmpty => "not_empty"
    | .greater => "gt"
    | .less => "lt"
    | .atLeast => "gte"
    | .atMost => "lte"
  called := "FilterOperator"

inductive Direction where
  | ascending | descending
  deriving DecidableEq, Repr

instance : Choice Direction where
  members := [.ascending, .descending]
  name
    | .ascending => "asc"
    | .descending => "desc"
  called := "SortDirection"

structure Condition where
  propertyId : String
  operator : Operator
  value : Document
  deriving DecidableEq, Repr

/-- Bounds on one date of an item, both included; null where there is no bound. -/
structure Period where
  field : String
  start : Document
  stop : Document
  deriving DecidableEq, Repr

structure Query where
  types : List String := []
  preset : Option Preset := none
  conditions : List Condition := []
  period : Option Period := none
  sortBy : String := "updatedAt"
  direction : Direction := .descending
  deriving DecidableEq, Repr

inductive ChartKind where
  | pie | bar | progress | timeline | count
  deriving DecidableEq, Repr

instance : Choice ChartKind where
  members := [.pie, .bar, .progress, .timeline, .count]
  name
    | .pie => "pie"
    | .bar => "bar"
    | .progress => "progress"
    | .timeline => "timeline"
    | .count => "count"
  called := "ChartType"

inductive Grouping where
  | day | week | month
  deriving DecidableEq, Repr

instance : Choice Grouping where
  members := [.day, .week, .month]
  name
    | .day => "day"
    | .week => "week"
    | .month => "month"
  called := "TimelineGrouping"

inductive DisplayMode where
  | list | chart
  deriving DecidableEq, Repr

instance : Choice DisplayMode where
  members := [.list, .chart]
  name
    | .list => "list"
    | .chart => "chart"
  called := "DisplayMode"

structure ChartConfig where
  kind : ChartKind
  groupBy : String := "type"
  /-- The property that says whether an item is done; any document, used when it is a text. -/
  progressBy : Document := .null
  /-- The value of that property that counts as done. -/
  doneValue : Document := .null
  timelineBy : String := "createdAt"
  grouping : Grouping := .day
  colors : List String := []
  deriving DecidableEq, Repr

structure Panel where
  id : String
  name : String
  query : Query := {}
  icon : String := ""
  color : Document := .null
  mode : DisplayMode := .list
  chart : Option ChartConfig := none
  maxItems : Int := 8
  deriving DecidableEq, Repr

end Cuaderno
