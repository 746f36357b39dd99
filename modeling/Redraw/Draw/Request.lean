import Redraw.Chart.ClassName
import Redraw.Chart.Input
import Redraw.Fault
import Redraw.Strategy.Registry

/-!
# Draw requests

A draw request is what an engine gets to draw one attempt. Its strategy is that of the type that the
form names, or else of the input's own type; the class name is always that of the input's type.
-/

namespace Redraw

/-- What an engine gets to draw one attempt. The form is `relabeled` where a metric label rule made
it, and the input's own otherwise. -/
structure DrawRequest where
  chart : ChartId
  attempt : AttemptId
  elementId : String
  className : String
  vizType : VizType
  engine : DrawEngine
  viewport : Viewport
  result : Option (Payload QueryResult)
  annotations : Option (Payload AnnotationData)
  datasource : Option Value
  initialValues : FormData
  form : FormData
  relabeled : Bool

namespace DrawRequest

/-- The type whose strategy an input is drawn with. -/
def strategyType (i : RenderInput) : VizType := (i.form.vizType?.map VizType.mk).getD i.vizType

/-- The request for an attempt to draw an input. -/
def build (r : Registry) (namer : ClassNamer) (i : RenderInput) (a : AttemptId) : DrawRequest :=
  let strategy := r.resolve (strategyType i)
  let relabeled := i.form.relabeled? strategy.metricLabel
  { chart := i.chart
    attempt := a
    elementId := i.chart.elementId
    className := namer.className i.vizType
    vizType := i.vizType
    engine := strategy.engine
    viewport := i.viewport
    result := i.result
    annotations := i.annotations
    datasource := i.datasource
    initialValues := i.initialValues
    form := relabeled.getD i.form
    relabeled := relabeled.isSome }

/-- What an engine refuses: first a viewport without area, then a missing type. -/
def refusal? (d : DrawRequest) : Option Fault :=
  if !d.viewport.isValid then some (.invalidViewport d.viewport)
  else if d.vizType.isEmpty then some .untypedDraw
  else none

end DrawRequest

/-- An engine that keeps the requests it accepts until they are taken, and counts them. The count
starts at zero and an operation adds at most one request, so it cannot wrap within fewer than 2^64
operations and is a natural number. -/
structure DrawQueue where
  pending : List DrawRequest := []
  started : Nat := 0

namespace DrawQueue

/-- Accepts a request. -/
def accept (q : DrawQueue) (d : DrawRequest) : DrawQueue := ⟨q.pending ++ [d], q.started + 1⟩

/-- Gives away the requests that are kept. -/
def take (q : DrawQueue) : List DrawRequest × DrawQueue := (q.pending, { q with pending := [] })

/-- The request accepted last of those that are kept. -/
def last? (q : DrawQueue) : Option DrawRequest := q.pending.getLast?

end DrawQueue

end Redraw
