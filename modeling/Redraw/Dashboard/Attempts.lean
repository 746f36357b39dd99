import Redraw.Dashboard.State

/-!
# Beginning and completing attempts

An attempt begins by handing a request to the engine. If the engine refuses, the attempt has failed at
once. Otherwise a callback completes it later, unless a newer attempt has begun or the chart was
forgotten by then; such a callback is dropped and changes nothing.
-/

namespace Redraw

/-- How an attempt ends. -/
inductive Ending where
  | success
  | failure (error : String) (stack : Option String)

namespace Ending

/-- The phase of a chart whose attempt has ended. -/
def phase : Ending → Phase
  | success => .rendered
  | failure _ _ => .errored

/-- The text of the error. -/
def errorText? : Ending → Option String
  | success => none
  | failure error _ => some error

/-- The ending is signaled to the board: a failure always, a success unless the host is loading the
chart or knows already that it is rendered. -/
def signals (e : Ending) (status : Option ChartStatus) : Bool :=
  match e, status with
  | failure _ _, _ => true
  | success, some .loading => false
  | success, some .rendered => false
  | success, _ => true

/-- The board once the ending is signaled. -/
def signal (e : Ending) (b : StatusBoard) (c : ChartId) : StatusBoard :=
  match e with
  | success => b.signalSuccess c
  | failure error stack => b.signalFailure c error stack

/-- What observers are told of the ending. -/
def event (e : Ending) (c : ChartId) (a : AttemptId) (signaled : Bool) : LifecycleEvent :=
  match e with
  | success => .rendered c a signaled
  | failure _ _ => .failed c a

end Ending

/-- The telemetry of an attempt that ends now. -/
def AttemptRecord.telemetry (r : AttemptRecord) (clock : Clock) (e : Ending) : TelemetryEvent where
  kind := .render
  chart := r.chart
  vizType := r.vizType
  startOffset := r.startedAt
  timestamp := clock.wall
  duration := clock.now - r.startedAt
  failed := e.errorText?.isSome
  errorDetail := e.errorText?

namespace Dashboard

/-- Takes the record that a callback settles out of the track of its chart. The callback is dropped where there is
none to take. -/
def settle (d : Dashboard) (c : ChartId) (a : AttemptId) : Except DropReason AttemptRecord × Dashboard :=
  match d.tracks.get? c with
  | some t =>
    let (settled, track) := t.settle a
    (settled, { d with tracks := d.tracks.insert c track })
  | none => (.error .unknownChart, d)

/-- The tracks with the phase of one chart set, if it has a track. -/
def setPhase (d : Dashboard) (c : ChartId) (phase : Phase) : OrderedMap ChartId Track :=
  match d.tracks.get? c with
  | some t => d.tracks.insert c { t with phase }
  | none => d.tracks

/-- Completes an attempt. The board is signaled as the ending says, and telemetry is emitted where
the attempt brought a new query result. -/
def complete (d : Dashboard) (c : ChartId) (a : AttemptId) (e : Ending) :
    Outcome CallbackOutcome :=
  match d.settle c a with
  | (.error reason, d) =>
    { value := .dropped reason
      dashboard := d
      emitted := .event (.callbackDropped c a reason) }
  | (.ok record, d) =>
    let signaled := e.signals (d.board.status? c)
    { value := .applied signaled record.resultChanged
      dashboard :=
        { d with
          board := if signaled then e.signal d.board c else d.board
          tracks := d.setPhase c e.phase }
      emitted :=
        { telemetry := if record.resultChanged then [record.telemetry d.clock e] else []
          events := [e.event c a signaled] } }

/-- Completes the attempt that a record is of. Only its chart and its number are looked at. -/
def completeRecord (d : Dashboard) (r : AttemptRecord) (e : Ending) : Outcome CallbackOutcome :=
  d.complete r.chart r.attempt e

/-- The track of a chart, resumed after the attempts of its former lives. -/
def track (d : Dashboard) (c : ChartId) : Track :=
  match d.tracks.get? c with
  | some t => t
  | none => ((d.retired.get? c).map Track.resumingAfter).getD Track.fresh

/-- The dashboard on which the attempt of a record has begun. -/
def follow (d : Dashboard) (i : RenderInput) (record : AttemptRecord) : Dashboard :=
  { d with
    tracks := d.tracks.insert i.chart ((d.track i.chart).begin record i.result)
    retired := d.retired.erase i.chart }

/-- Begins an attempt to draw an input. What the engine refuses fails at once. -/
def begin (d : Dashboard) (i : RenderInput) : Outcome AttemptRecord :=
  let record := (d.track i.chart).nextRecord i d.clock.now
  let followed := d.follow i record
  let begun := Emissions.event (.attemptBegun record.chart record.attempt record.resultChanged)
  let request := followed.drawRequest i record.attempt
  match request.refusal? with
  | none =>
    { value := record
      dashboard := { followed with queue := followed.queue.accept request }
      emitted := begun }
  | some fault =>
    let failed := followed.complete record.chart record.attempt (.failure fault.message none)
    { value := record, dashboard := failed.dashboard, emitted := begun ++ failed.emitted }

/-- Forgets the attempts of a chart but for the number of the newest. Says whether there were any
since it was last forgotten. -/
def forget (d : Dashboard) (c : ChartId) : Outcome Bool :=
  match d.tracks.get? c with
  | some t =>
    { value := true
      dashboard :=
        { d with tracks := d.tracks.erase c, retired := d.retired.insert c t.latest } }
  | none => { value := false, dashboard := d }

end Dashboard

end Redraw
