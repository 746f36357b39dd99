import Redraw.Attempt.Track
import Redraw.Dashboard.Clock
import Redraw.Dashboard.Hooks
import Redraw.Draw.Request
import Redraw.Status.Board
import Redraw.Strategy.Config
import Redraw.Telemetry.Event

/-!
# The state of a dashboard

A dashboard renders any number of charts that share a registry, a status board, a clock, an engine and
the observers. Whatever an action on it emits is collected in `Emissions`.
-/

namespace Redraw

/-- Everything a dashboard knows. `tracks` holds the charts with an attempt since they were last
removed, `retired` the newest attempts of removed ones, and `seen` the last input of each chart. -/
structure Dashboard where
  registry : Registry
  namer : ClassNamer
  clock : Clock
  sink : TelemetrySink
  hooks : Hooks := {}
  board : StatusBoard := ∅
  queue : DrawQueue := {}
  tracks : OrderedMap ChartId Track := ∅
  retired : OrderedMap ChartId AttemptId := ∅
  seen : OrderedMap ChartId SeenInput := ∅
  observers : List String := []

/-- What an action emits: telemetry for the sink, events for the observers, and calls into the
page. -/
structure Emissions where
  telemetry : List TelemetryEvent := []
  events : List LifecycleEvent := []
  calls : List HookCall := []

namespace Emissions

/-- Nothing is emitted. -/
def none : Emissions := {}

/-- One event is emitted. -/
def event (e : LifecycleEvent) : Emissions := { events := [e] }

/-- What two actions emit one after the other. -/
def append (a b : Emissions) : Emissions :=
  ⟨a.telemetry ++ b.telemetry, a.events ++ b.events, a.calls ++ b.calls⟩

instance : Append Emissions := ⟨append⟩

end Emissions

/-- What an action returns, the dashboard after it, and what it emitted. -/
structure Outcome (α : Type) where
  value : α
  dashboard : Dashboard
  emitted : Emissions := {}

namespace Dashboard

/-- A dashboard with these strategies and class names on which nothing has happened. -/
def new (registry : Registry) (namer : ClassNamer) (clock : Clock) (sink : TelemetrySink)
    (hooks : Hooks) : Dashboard :=
  { registry, namer, clock, sink, hooks }

/-- A new dashboard that is set up by a configuration, unless a row of it is refused. -/
def ofConfig (config : RenderConfig) (clock : Clock) (sink : TelemetrySink) (hooks : Hooks) :
    Except Fault Dashboard :=
  match config.registry with
  | .ok registry => .ok (new registry config.classNamer clock sink hooks)
  | .error fault => .error fault

/-- The phase of a chart. -/
def phase (d : Dashboard) (c : ChartId) : Phase := ((d.tracks.get? c).map (·.phase)).getD .idle

/-- The record of the outstanding attempt of a chart. -/
def active? (d : Dashboard) (c : ChartId) : Option AttemptRecord :=
  (d.tracks.get? c).bind (·.active)

/-- The newest attempt of a chart since it was last removed. -/
def latest? (d : Dashboard) (c : ChartId) : Option AttemptId := (d.tracks.get? c).map (·.latest)

/-- The request for an attempt to draw an input. -/
def drawRequest (d : Dashboard) (i : RenderInput) (a : AttemptId) : DrawRequest :=
  DrawRequest.build d.registry d.namer i a

end Dashboard

end Redraw
