import Redraw.Chart.Identity
import Redraw.Wire.DecodeError

/-!
# Faults

Everything that can be refused, with the text that is shown for it. A refused draw is the only fault
that a running dashboard meets by itself; it becomes the alert of its chart.
-/

namespace Redraw

/-- The cause of a refusal. -/
inductive Fault where
  | invalidViewport (v : Viewport)
  | untypedDraw
  | untypedStrategy
  | strategyTaken (v : VizType)
  | unnamedObserver
  | observerTaken (id : String)
  | unreadableConfig (cause : ReadError)
  | unreadableTelemetry (cause : ReadError)
  | unsupportedVersion (version : UInt32)

namespace Fault

/-- What is wrong with the data, where the fault is not about the viewport. -/
def detail : Fault → String
  | invalidViewport v =>
    "invalid viewport size: width=" ++ toString v.width ++ ", height=" ++ toString v.height
  | untypedDraw => "draw request viz type must not be empty"
  | untypedStrategy => "strategy viz type must not be empty"
  | strategyTaken v => "strategy for viz type `" ++ v.tag ++ "` is already registered"
  | unnamedObserver => "observer id must not be empty"
  | observerTaken id => "observer with id `" ++ id ++ "` is already registered"
  | unreadableConfig cause => "failed to parse render config: " ++ cause.message
  | unreadableTelemetry cause => "failed to parse telemetry json payload: " ++ cause.message
  | unsupportedVersion version =>
    "unsupported telemetry schema version: " ++ toString version

/-- The text that is shown for a fault. -/
def message (f : Fault) : String :=
  match f with
  | invalidViewport _ => f.detail
  | _ => "invalid data: " ++ f.detail

end Fault

end Redraw
