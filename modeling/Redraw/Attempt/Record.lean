import Redraw.Chart.Identity
import Redraw.Gate.Decision

/-!
# What is told about attempts

The record of an attempt, the phase of a chart, and the answers to callbacks and to submitted inputs.
Observers are told the same as events.
-/

namespace Redraw

/-- An attempt to render a chart, as it was begun. -/
structure AttemptRecord where
  chart : ChartId
  attempt : AttemptId
  vizType : VizType
  startedAt : Float
  resultChanged : Bool
deriving DecidableEq

/-- Where a chart is in its rendering. -/
inductive Phase where
  | idle
  | attempting (a : AttemptId)
  | rendered
  | errored
deriving DecidableEq, Repr

/-- Why a callback is dropped. -/
inductive DropReason where
  | superseded (latest : AttemptId)
  | alreadySettled
  | unknownChart
deriving DecidableEq, Repr

/-- What a callback led to. -/
inductive CallbackOutcome where
  | applied (statusSignaled telemetryEmitted : Bool)
  | dropped (reason : DropReason)
deriving DecidableEq, Repr

/-- The callback had its effect. -/
def CallbackOutcome.isApplied : CallbackOutcome → Bool
  | applied _ _ => true
  | dropped _ => false

/-- What a submitted input led to. -/
inductive SubmitOutcome where
  | started (record : AttemptRecord)
  | withheld (decision : RedrawDecision)
  | skipped (reason : SkipReason)
deriving DecidableEq

/-- What observers are told. -/
inductive LifecycleEvent where
  | redrawWithheld (chart : ChartId) (decision : RedrawDecision)
  | attemptBegun (chart : ChartId) (attempt : AttemptId) (resultChanged : Bool)
  | rendered (chart : ChartId) (attempt : AttemptId) (statusSignaled : Bool)
  | failed (chart : ChartId) (attempt : AttemptId)
  | callbackDropped (chart : ChartId) (attempt : AttemptId) (reason : DropReason)
deriving DecidableEq, Repr

/-- The chart that an event is about. -/
def LifecycleEvent.chart : LifecycleEvent → ChartId
  | redrawWithheld c _ | attemptBegun c _ _ | rendered c _ _ | failed c _ | callbackDropped c _ _ => c

end Redraw
