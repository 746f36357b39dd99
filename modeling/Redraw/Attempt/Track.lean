import Redraw.Attempt.Record

/-!
# The attempts of one chart

A track follows the attempts of a chart. Beginning an attempt replaces the one that is outstanding, so
only the newest can be settled, and it can be settled once.
-/

namespace Redraw

/-- The newest attempt of a chart, its record while it is outstanding, the phase of the chart, and
the query result that the newest attempt was begun with. -/
structure Track where
  latest : AttemptId
  active : Option AttemptRecord := none
  phase : Phase := .idle
  lastResult : Option (Payload QueryResult) := none

namespace Track

/-- A track on which no attempt has begun since the chart came back, or at all. -/
def resumingAfter (latest : AttemptId) : Track := { latest }

/-- A track of a chart that is new. -/
def fresh : Track := resumingAfter ⟨0⟩

/-- The record of the attempt that an input begins. -/
def nextRecord (t : Track) (i : RenderInput) (now : Float) : AttemptRecord where
  chart := i.chart
  attempt := t.latest.next
  vizType := i.vizType
  startedAt := now
  resultChanged := !Payload.same t.lastResult i.result

/-- The track once the attempt of a record has begun. -/
def begin (t : Track) (r : AttemptRecord) (result : Option (Payload QueryResult)) : Track :=
  { t with
    latest := r.attempt
    active := some r
    phase := .attempting r.attempt
    lastResult := result }

/-- Takes the outstanding record out of a track whose newest attempt is to be settled. A record of another
attempt is put back. -/
def settle (t : Track) (a : AttemptId) : Except DropReason AttemptRecord × Track :=
  if a ≠ t.latest then (.error (.superseded t.latest), t)
  else
    let taken := t.active
    let emptied := { t with active := none }
    match taken.filter (·.attempt = a) with
    | some r => (.ok r, emptied)
    | none => (.error .alreadySettled, { emptied with active := taken })

end Track

end Redraw
