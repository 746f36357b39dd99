import Redraw.Chart.Input
import Redraw.Gate.Topics
import Redraw.Status.Snapshot
import Redraw.Strategy.Registry

/-!
# The redraw gate

Of two inputs that follow each other the gate decides whether the second is worth a redraw. Types
that are always redrawn pass. Otherwise the results have to be ready to display, and some topic has
to have changed.
-/

namespace Redraw

/-- What the gate decides. -/
inductive RedrawDecision where
  | typeOverride
  | notReady
  | changed (topics : RedrawTopics)
  | unchanged
deriving DecidableEq, Repr

/-- The decision lets the redraw pass. -/
def RedrawDecision.isRedraw : RedrawDecision → Bool
  | typeOverride | changed _ => true
  | notReady | unchanged => false

/-- An input with the status that its chart had. -/
structure SeenInput where
  input : RenderInput
  status : StatusSnapshot

/-- There is a result without an error, and the status lets it be displayed. -/
def SeenInput.isReady (s : SeenInput) : Bool :=
  s.input.result.isSome && s.status.status.any (·.isDisplayable) && !s.input.resultFailed
    && !s.status.overlay

/-- Two option values agree, or both options are absent. -/
def sameOption : Option Value → Option Value → Bool
  | none, none => true
  | some a, some b => a.agrees b
  | _, _ => false

/-- The topics in which an input differs from the one before it. -/
def changedTopics (previous next : RenderInput) : RedrawTopics :=
  RedrawTopics.none
    |>.addIf .queryResult (!Payload.same previous.result next.result)
    |>.addIf .annotations (!Payload.same previous.annotations next.annotations)
    |>.addIf .width (previous.viewport.width != next.viewport.width)
    |>.addIf .height (previous.viewport.height != next.viewport.height)
    |>.addIf .forceRender next.forceRender
    |>.addIf .colorScheme (!sameOption previous.form.colorScheme? next.form.colorScheme?)
    |>.addIf .cacheBuster (previous.cacheBuster != next.cacheBuster)

/-- Whether the second of two inputs is worth a redraw. -/
def evaluateRedraw (r : Registry) (previous next : SeenInput) : RedrawDecision :=
  if r.redrawsAlways next.input.vizType then .typeOverride
  else if !next.isReady then .notReady
  else
    let topics := changedTopics previous.input next.input
    if topics.isNone then .unchanged else .changed topics

end Redraw
