/-!
# The status of a chart

The host keeps a status for every chart, beside an overlay that may cover it and an alert that may be
open. A chart is not drawn while any of them stands in the way.
-/

namespace Redraw

/-- How far a chart has come. -/
inductive ChartStatus where
  | idle
  | loading
  | success
  | error
  | rendered
deriving DecidableEq, Repr

namespace ChartStatus

/-- The name of a status. -/
def name : ChartStatus → String
  | idle => "idle"
  | loading => "loading"
  | success => "success"
  | error => "error"
  | rendered => "rendered"

/-- The chart has results that can be displayed. -/
def isDisplayable : ChartStatus → Bool
  | success | rendered => true
  | idle | loading | error => false

end ChartStatus

/-- What the host says about a chart at one moment. -/
structure StatusSnapshot where
  status : Option ChartStatus := none
  overlay : Bool := false
  alert : Option String := none
deriving DecidableEq, Repr

namespace StatusSnapshot

/-- A status with no overlay and no alert. -/
def plain (s : ChartStatus) : StatusSnapshot := { status := some s }

/-- Nothing stands in the way of drawing the chart. -/
def isRenderable (s : StatusSnapshot) : Bool :=
  !s.overlay && s.alert.isNone &&
    match s.status with
    | none | some .loading => false
    | some _ => true

end StatusSnapshot

/-- What stands in the way of drawing a chart. -/
inductive SkipReason where
  | refreshOverlay
  | loading
  | nullStatus
  | alert
deriving DecidableEq, Repr

/-- The first obstacle: the overlay, then the alert, then a status that is missing or loading. -/
def SkipReason.of? (s : StatusSnapshot) : Option SkipReason :=
  if s.overlay then some .refreshOverlay
  else if s.alert.isSome then some .alert
  else
    match s.status with
    | none => some .nullStatus
    | some .loading => some .loading
    | some _ => none

end Redraw
