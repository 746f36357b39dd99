import Redraw.Dashboard.Attempts

/-!
# Submitting inputs

The host submits an input whenever something about a chart may have changed. The gate compares it with
the chart's last input, and what the gate lets pass is drawn unless the status stands in the way.
-/

namespace Redraw.Dashboard

/-- What the gate decides about an input, given the last input of its chart. The first input of a
chart is not compared with anything. -/
def decision? (d : Dashboard) (i : RenderInput) : Option RedrawDecision :=
  (d.seen.get? i.chart).map fun previous =>
    evaluateRedraw d.registry previous ⟨i, d.board.snapshot i.chart⟩

/-- Withholds, skips or begins the drawing of an input. -/
def consider (d : Dashboard) (i : RenderInput) : Outcome SubmitOutcome :=
  match (d.decision? i).filter (!·.isRedraw) with
  | some decision =>
    { value := .withheld decision
      dashboard := d
      emitted := .event (.redrawWithheld i.chart decision) }
  | none =>
    match SkipReason.of? (d.board.snapshot i.chart) with
    | some reason => { value := .skipped reason, dashboard := d }
    | none =>
      let begun := d.begin i
      { value := .started begun.value, dashboard := begun.dashboard, emitted := begun.emitted }

/-- Submits an input. Whatever becomes of it, it is the last input of its chart from then on, with
the status that the chart had when it was submitted. -/
def submit (d : Dashboard) (i : RenderInput) : Outcome SubmitOutcome :=
  let seen : SeenInput := ⟨i, d.board.snapshot i.chart⟩
  let considered := d.consider i
  { considered with
    dashboard :=
      { considered.dashboard with seen := considered.dashboard.seen.insert i.chart seen } }

/-- Removes a chart. Says whether there was anything to remove. -/
def remove (d : Dashboard) (c : ChartId) : Outcome Bool :=
  let forgotten := { d with seen := d.seen.erase c }.forget c
  { forgotten with value := forgotten.value || d.seen.contains c }

end Redraw.Dashboard
