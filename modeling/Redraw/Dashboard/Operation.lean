import Redraw.Dashboard.Submit

/-!
# Operations on a dashboard

Everything that can be done to a dashboard is an `Operation`, and `step` says what it answers, what
becomes of the dashboard and what is emitted. A session is a list of operations.
-/

namespace Redraw

/-- Something that is done to a dashboard by the host, the engine or an operator. -/
inductive Operation where
  | setStatus (c : ChartId) (status : Option ChartStatus)
  | setOverlay (c : ChartId) (visible : Bool)
  | setAlert (c : ChartId) (alert : Option String)
  | signalSuccess (c : ChartId)
  | signalFailure (c : ChartId) (error : String) (stack : Option String)
  | setClock (time : Float)
  | advanceClock (time : Float)
  | submit (i : RenderInput)
  | begin (i : RenderInput)
  | buildRequest (i : RenderInput) (a : AttemptId)
  | complete (c : ChartId) (a : AttemptId) (e : Ending)
  | completeRecord (r : AttemptRecord) (e : Ending)
  | remove (c : ChartId)
  | forget (c : ChartId)
  | inspect (c : ChartId)
  | addObserver (id : String)
  | removeObserver (id : String)
  | findObserver (id : String)
  | addStrategy (v : VizType) (s : Strategy)
  | removeStrategy (v : VizType)
  | setHooks (h : Hooks)
  | describeHooks
  | callHook (c : HookCall)
  | listPending
  | takePending
  | lastRequest

/-- The chart that an operation is addressed to. -/
def Operation.chart? : Operation → Option ChartId
  | setStatus c _ | setOverlay c _ | setAlert c _ | signalSuccess c | signalFailure c _ _ => some c
  | submit i | begin i | buildRequest i _ => some i.chart
  | completeRecord r _ => some r.chart
  | complete c _ _ | remove c | forget c | inspect c => some c
  | _ => none

/-- What an operation answers. -/
inductive Answer where
  | done
  | time (now : Float) (wall : Int64)
  | submitted (o : SubmitOutcome)
  | begun (r : AttemptRecord)
  | request (d : DrawRequest)
  | callback (o : CallbackOutcome)
  | flag (b : Bool)
  | refusal (f : Fault)
  | observers (flag : Bool) (count : Nat)
  | hooks (h : Hooks)
  | pending (started : Nat) (requests : List DrawRequest)
  | taken (started : Nat) (requests : List DrawRequest)
  | last (d : Option DrawRequest)

/-- What one operation answers and what is emitted meanwhile. The telemetry is what the sink keeps,
and each event is listed once for every observer. -/
structure Reply where
  answer : Answer
  telemetry : List TelemetryEvent
  events : List LifecycleEvent
  delivered : List (String × LifecycleEvent)
  calls : List HookCall

namespace Dashboard

/-- Adds an observer. It must have an identifier that no other observer has. -/
def addObserver (d : Dashboard) (id : String) : Except Fault Dashboard :=
  if id.isEmpty then .error .unnamedObserver
  else if id ∈ d.observers then .error (.observerTaken id)
  else .ok { d with observers := d.observers ++ [id] }

/-- An action that cannot fail, emits nothing and answers that it is done. -/
def quietly (d : Dashboard) : Outcome Answer := { value := .done, dashboard := d }

/-- An action that may be refused and then changes nothing. -/
def unlessRefused (d : Dashboard) : Except Fault Dashboard → Outcome Answer
  | .ok d => { value := .done, dashboard := d }
  | .error fault => { value := .refusal fault, dashboard := d }

/-- An action that answers the time. -/
def tellTime (d : Dashboard) : Outcome Answer :=
  { value := .time d.clock.now d.clock.wall, dashboard := d }

/-- Carries out an operation. -/
def perform (d : Dashboard) : Operation → Outcome Answer
  | .setStatus c status => quietly { d with board := d.board.setStatus c status }
  | .setOverlay c visible => quietly { d with board := d.board.setOverlay c visible }
  | .setAlert c alert => quietly { d with board := d.board.setAlert c alert }
  | .signalSuccess c => quietly { d with board := d.board.signalSuccess c }
  | .signalFailure c error stack => quietly { d with board := d.board.signalFailure c error stack }
  | .setClock time => tellTime { d with clock := d.clock.set time }
  | .advanceClock time => tellTime { d with clock := d.clock.advance time }
  | .submit i =>
    let o := d.submit i
    { o with value := .submitted o.value }
  | .begin i =>
    let o := d.begin i
    { o with value := .begun o.value }
  | .buildRequest i a => { value := .request (d.drawRequest i a), dashboard := d }
  | .complete c a e =>
    let o := d.complete c a e
    { o with value := .callback o.value }
  | .completeRecord r e =>
    let o := d.completeRecord r e
    { o with value := .callback o.value }
  | .remove c =>
    let o := d.remove c
    { o with value := .flag o.value }
  | .forget c =>
    let o := d.forget c
    { o with value := .flag o.value }
  | .inspect _ => quietly d
  | .addObserver id => d.unlessRefused (d.addObserver id)
  | .removeObserver id =>
    let kept := d.observers.erase id
    { value := .observers (decide (id ∈ d.observers)) kept.length
      dashboard := { d with observers := kept } }
  | .findObserver id =>
    { value := .observers (decide (id ∈ d.observers)) d.observers.length, dashboard := d }
  | .addStrategy v s =>
    d.unlessRefused ((d.registry.register v s).map fun r => { d with registry := r })
  | .removeStrategy v =>
    let (registry, removed) := d.registry.unregister v
    { value := .flag removed, dashboard := { d with registry } }
  | .setHooks h => quietly { d with hooks := h }
  | .describeHooks => { value := .hooks d.hooks, dashboard := d }
  | .callHook c => { value := .done, dashboard := d, emitted := { calls := d.hooks.call c } }
  | .listPending => { value := .pending d.queue.started d.queue.pending, dashboard := d }
  | .takePending =>
    let (requests, queue) := d.queue.take
    { value := .taken queue.started requests, dashboard := { d with queue } }
  | .lastRequest => { value := .last d.queue.last?, dashboard := d }

/-- Every observer is told every event. -/
def deliveries (observers : List String) (events : List LifecycleEvent) :
    List (String × LifecycleEvent) :=
  events.flatMap fun e => observers.map fun o => (o, e)

/-- Carries out an operation and hands out what it emitted. -/
def step (d : Dashboard) (op : Operation) : Dashboard × Reply :=
  let o := d.perform op
  (o.dashboard,
    { answer := o.value
      telemetry := d.sink.kept o.emitted.telemetry
      events := o.emitted.events
      delivered := deliveries d.observers o.emitted.events
      calls := o.emitted.calls })

/-- Carries out operations one after the other. -/
def run (d : Dashboard) : List Operation → Dashboard × List Reply
  | [] => (d, [])
  | op :: rest =>
    let (next, reply) := d.step op
    let (last, replies) := next.run rest
    (last, reply :: replies)

end Dashboard

end Redraw
