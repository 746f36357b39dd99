import Redraw.Chart.Identity

/-!
# Telemetry

A telemetry event times an attempt from its beginning to its end. Events go to a sink, which may keep
them or not.
-/

namespace Redraw

/-- What is measured. -/
inductive TelemetryKind where
  | render
deriving DecidableEq, Repr

/-- The name of what is measured. -/
def TelemetryKind.name : TelemetryKind → String
  | render => "render"

/-- A timed attempt. The offset and the duration are milliseconds of the clock, `timestamp` is the
wall clock at the end. -/
structure TelemetryEvent where
  kind : TelemetryKind
  chart : ChartId
  vizType : VizType
  startOffset : Float
  timestamp : Int64
  duration : Float
  failed : Bool
  errorDetail : Option String
deriving DecidableEq

/-- Where telemetry goes. -/
inductive TelemetrySink where
  | recording
  | discarding
deriving DecidableEq, Repr

/-- The events that a sink keeps of those handed to it. -/
def TelemetrySink.kept : TelemetrySink → List TelemetryEvent → List TelemetryEvent
  | recording, events => events
  | discarding, _ => []

@[simp]
theorem TelemetrySink.kept_nil (s : TelemetrySink) : s.kept [] = [] := by cases s <;> rfl

/-- What a sink keeps of events does not depend on whether they come at once. -/
@[simp]
theorem TelemetrySink.kept_append (s : TelemetrySink) (a b : List TelemetryEvent) :
    s.kept (a ++ b) = s.kept a ++ s.kept b := by
  cases s <;> rfl

/-- A sink keeps nothing but what it was handed. -/
theorem TelemetrySink.mem_of_mem_kept (s : TelemetrySink) {events : List TelemetryEvent}
    {t : TelemetryEvent} (member : t ∈ s.kept events) : t ∈ events := by
  cases s with
  | recording => exact member
  | discarding => exact nomatch member

end Redraw
