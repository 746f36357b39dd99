import Redraw.Proofs.Attempt.Moves
import Redraw.Proofs.Chart.Agreement

/-!
# Charts are independent

What a run shows of a chart does not depend on the other charts. The operations that are addressed to
them can be left out of the run: the operations of the chart are answered as before, the chart ends up in
the same state, and the logs say the same about it. Both runs are carried out side by side on dashboards
that agree on the chart; an operation that is left out is carried out on one of them only, which agrees
with the other one as before.
-/

namespace Redraw

/-- The operation is addressed to the chart, or to no chart at all. -/
def Operation.concerns (op : Operation) (c : ChartId) : Bool := op.chart?.all (· = c)

/-- An operation is addressed to no chart, to this one or to another one. -/
theorem Operation.addressee (op : Operation) (c : ChartId) :
    op.chart? = none ∨ op.chart? = some c ∨ ∃ k, op.chart? = some k ∧ k ≠ c := by
  cases addressed : op.chart? with
  | none => exact .inl rfl
  | some k =>
    by_cases own : k = c
    · exact .inr (.inl (congrArg some own))
    · exact .inr (.inr ⟨k, rfl, own⟩)

theorem Operation.isQuiet_of_shared {op : Operation} (shared : op.chart? = none) :
    op.isQuiet = true := by
  cases op with
  | submit _ | begin _ | complete _ _ _ | completeRecord _ _ | remove _ | forget _ =>
    exact nomatch shared
  | _ => rfl

/-- The requests that an answer hands over for good. -/
def Answer.requests : Answer → List DrawRequest
  | .taken _ requests => requests
  | _ => []

/-- What a run shows of a chart: the answers to its operations, the state in which it ends up, and what
the logs say about it. -/
structure Observation where
  answers : List Answer
  phase : Phase
  active : Option AttemptRecord
  latest : Option AttemptId
  entry : Option StatusEntry
  telemetry : List TelemetryEvent
  events : List LifecycleEvent
  delivered : List (String × LifecycleEvent)
  requests : List DrawRequest

/-- What is observed of a chart in a run. The engine has accepted the requests that were taken from it
and those that it keeps. -/
def Dashboard.observe (d : Dashboard) (c : ChartId) (ops : List Operation) : Observation where
  answers := ((d.history ops).filter fun m => m.op.chart? = some c).map (·.reply.answer)
  phase := (d.after ops).phase c
  active := (d.after ops).active? c
  latest := (d.after ops).latest? c
  entry := (d.after ops).board.get? c
  telemetry := ((d.history ops).flatMap (·.reply.telemetry)).filter (·.chart = c)
  events := ((d.history ops).flatMap (·.reply.events)).filter (·.chart = c)
  delivered := ((d.history ops).flatMap (·.reply.delivered)).filter (·.2.chart = c)
  requests :=
    ((d.history ops).flatMap (·.reply.answer.requests) ++ (d.after ops).queue.pending).filter
      (·.chart = c)

/-! ## One moment of a run -/

/-- What a moment adds to what is observed of a chart. -/
structure Share where
  answers : List Answer := []
  telemetry : List TelemetryEvent := []
  events : List LifecycleEvent := []
  delivered : List (String × LifecycleEvent) := []
  requests : List DrawRequest := []

/-- The share of a chart in a moment. -/
def Moment.share (m : Moment) (c : ChartId) : Share where
  answers := if m.op.chart? = some c then [m.reply.answer] else []
  telemetry := m.reply.telemetry.filter (·.chart = c)
  events := m.reply.events.filter (·.chart = c)
  delivered := m.reply.delivered.filter (·.2.chart = c)
  requests := m.reply.answer.requests.filter (·.chart = c)

/-- What is observed when a moment comes before the others. -/
def Share.before (s : Share) (o : Observation) : Observation :=
  { o with
    answers := s.answers ++ o.answers
    telemetry := s.telemetry ++ o.telemetry
    events := s.events ++ o.events
    delivered := s.delivered ++ o.delivered
    requests := s.requests ++ o.requests }

theorem Share.before_nothing (o : Observation) : Share.before {} o = o := rfl

/-- Every observer is told the events of the moment. -/
theorem Moment.delivered_eq (m : Moment) :
    m.reply.delivered = Dashboard.deliveries m.before.observers m.reply.events := rfl

/-- Observers are told about a chart what the events say about it. -/
theorem Moment.delivered_about (m : Moment) (c : ChartId) :
    m.reply.delivered.filter (·.2.chart = c) =
      Dashboard.deliveries m.before.observers (m.reply.events.filter (·.chart = c)) := by
  rw [delivered_eq]
  exact Dashboard.filter_deliveries m.before.observers m.reply.events fun e => e.chart = c

namespace Dashboard

variable {c k : ChartId} {d e : Dashboard} {op : Operation}

theorem observe_cons (d : Dashboard) (c : ChartId) (op : Operation) (ops : List Operation) :
    d.observe c (op :: ops) =
      ((⟨d, op⟩ : Moment).share c).before ((d.step op).1.observe c ops) := by
  unfold observe Moment.share Share.before
  by_cases own : op.chart? = some c
  · simp [own]
  · simp [own]

/-- What is observed of a chart where nothing is done. -/
theorem observe_nil (a : d.Agree c e) : d.observe c [] = e.observe c [] := by
  simp only [observe, after_nil, history_nil, List.filter_nil, List.map_nil, List.flatMap_nil,
    List.nil_append, phase, active?, latest?, a.tracks, a.board, a.pending]

/-! ## Operations on the chart -/

theorem alike_perform (a : d.Agree c e) (own : op.chart? = some c) :
    (d.perform op).Alike c (e.perform op) := by
  cases op with
  | setStatus k _ | setOverlay k _ | setAlert k _ | signalSuccess k | signalFailure k _ _ =>
    obtain rfl : k = c := Option.some.inj own
    exact ⟨rfl, a.update _, rfl⟩
  | submit i =>
    obtain rfl : i.chart = c := Option.some.inj own
    exact (alike_submit a).map Answer.submitted
  | begin i =>
    obtain rfl : i.chart = c := Option.some.inj own
    exact (alike_begin a).map Answer.begun
  | buildRequest i n => exact ⟨congrArg Answer.request (a.drawRequest_eq i n), a, rfl⟩
  | complete k n x =>
    obtain rfl : k = c := Option.some.inj own
    exact (alike_complete a n x).map Answer.callback
  | completeRecord r x =>
    obtain rfl : r.chart = c := Option.some.inj own
    exact (alike_complete a r.attempt x).map Answer.callback
  | remove k =>
    obtain rfl : k = c := Option.some.inj own
    exact (alike_remove a).map Answer.flag
  | forget k =>
    obtain rfl : k = c := Option.some.inj own
    exact (alike_forget a).map Answer.flag
  | inspect k => exact ⟨rfl, a, rfl⟩
  | _ => exact nomatch own

/-- What is done to a chart is answered alike on dashboards that agree on it. -/
theorem share_own (a : d.Agree c e) (own : op.chart? = some c) :
    (⟨d, op⟩ : Moment).share c = (⟨e, op⟩ : Moment).share c := by
  have same := alike_perform a own
  have reply : (⟨d, op⟩ : Moment).reply = (⟨e, op⟩ : Moment).reply := by
    simp only [Moment.reply, step, same.value, same.emitted, a.sink, a.observers]
  unfold Moment.share
  rw [reply]

/-! ## Operations that are not addressed to a chart -/

theorem requests_unlessRefused (d : Dashboard) (o : Except Fault Dashboard) :
    (d.unlessRefused o).value.requests = [] := by
  cases o <;> rfl

/-- Requests are handed over only when they are taken. -/
theorem requests_eq_nil (d : Dashboard) (keeps : op ≠ .takePending) :
    (⟨d, op⟩ : Moment).reply.answer.requests = [] := by
  cases op with
  | takePending => exact absurd rfl keeps
  | addObserver id => exact requests_unlessRefused d _
  | addStrategy v s => exact requests_unlessRefused d _
  | _ => rfl

theorem agree_shared (a : d.Agree c e) (shared : op.chart? = none) :
    (d.step op).1.Agree c (e.step op).1 := by
  cases op with
  | setClock time => exact { a with clock := congrArg (·.set time) a.clock }
  | advanceClock time => exact { a with clock := congrArg (·.advance time) a.clock }
  | addObserver id =>
    show (d.unlessRefused (d.addObserver id)).dashboard.Agree c
      (e.unlessRefused (e.addObserver id)).dashboard
    unfold addObserver
    rw [a.observers]
    split
    · exact a
    · split
      · exact a
      · exact { a with observers := rfl }
  | removeObserver id => exact { a with observers := congrArg (·.erase id) a.observers }
  | addStrategy v s =>
    show Agree c
      (d.unlessRefused ((d.registry.register v s).map fun r => { d with registry := r })).dashboard
      (e.unlessRefused ((e.registry.register v s).map fun r => { e with registry := r })).dashboard
    rw [a.registry]
    cases e.registry.register v s with
    | error fault => exact a
    | ok r => exact { a with registry := rfl }
  | removeStrategy v => exact { a with registry := congrArg (fun r => (r.unregister v).1) a.registry }
  | setHooks h => exact { a with hooks := rfl }
  | takePending => exact { a with pending := rfl }
  | findObserver _ | describeHooks | callHook _ | listPending | lastRequest => exact a
  | _ => exact nomatch shared

/-- Where no chart is addressed, the share of a chart can only be the requests that are taken. -/
theorem share_shared (a : d.Agree c e) (shared : op.chart? = none) :
    (⟨d, op⟩ : Moment).share c = (⟨e, op⟩ : Moment).share c := by
  have quiet : op.isQuiet = true := Operation.isQuiet_of_shared shared
  have left : (⟨d, op⟩ : Moment).Quiet := Moment.quiet_of_isQuiet d quiet
  have right : (⟨e, op⟩ : Moment).Quiet := Moment.quiet_of_isQuiet e quiet
  have requests : (⟨d, op⟩ : Moment).reply.answer.requests.filter (·.chart = c) =
      (⟨e, op⟩ : Moment).reply.answer.requests.filter (·.chart = c) := by
    by_cases takes : op = .takePending
    · subst takes
      exact a.pending
    · rw [requests_eq_nil d takes, requests_eq_nil e takes]
  unfold Moment.share
  rw [Moment.delivered_about, Moment.delivered_about, requests, left.telemetry, right.telemetry,
    left.events, right.events]
  simp [shared, deliveries]

/-! ## Operations on another chart -/

theorem spares_perform (consistent : d.Consistent) (addressed : op.chart? = some k) (other : k ≠ c) :
    (d.perform op).Spares c d := by
  have a := Agree.refl c d
  cases op with
  | setStatus j _ | setOverlay j _ | setAlert j _ | signalSuccess j | signalFailure j _ _ =>
    obtain rfl : j = k := Option.some.inj addressed
    exact ⟨a.update_other other _, by simp [perform, quietly], by simp [perform, quietly]⟩
  | submit i =>
    obtain rfl : i.chart = k := Option.some.inj addressed
    exact (spares_submit d other).map Answer.submitted
  | begin i =>
    obtain rfl : i.chart = k := Option.some.inj addressed
    exact (spares_begin d other).map Answer.begun
  | complete j n x =>
    obtain rfl : j = k := Option.some.inj addressed
    exact (spares_complete consistent other n x).map Answer.callback
  | completeRecord r x =>
    obtain rfl : r.chart = k := Option.some.inj addressed
    exact (spares_complete consistent other r.attempt x).map Answer.callback
  | remove j =>
    obtain rfl : j = k := Option.some.inj addressed
    exact (spares_remove d other).map Answer.flag
  | forget j =>
    obtain rfl : j = k := Option.some.inj addressed
    exact (spares_forget d other).map Answer.flag
  | buildRequest _ _ | inspect _ =>
    exact ⟨a, by simp [perform, quietly], by simp [perform, quietly]⟩
  | _ => exact nomatch addressed

/-- What is done to another chart has nothing of the chart in it. -/
theorem share_other (consistent : d.Consistent) (addressed : op.chart? = some k) (other : k ≠ c) :
    (⟨d, op⟩ : Moment).share c = {} := by
  have spared := spares_perform consistent addressed other
  have foreign : op.chart? ≠ some c := by
    rw [addressed]
    exact fun same => other (Option.some.inj same)
  have telemetry : (⟨d, op⟩ : Moment).reply.telemetry.filter (·.chart = c) = [] := by
    rw [List.filter_eq_nil_iff]
    intro t member
    simpa using spared.telemetry t (d.sink.mem_of_mem_kept member)
  have events : (⟨d, op⟩ : Moment).reply.events.filter (·.chart = c) = [] := spared.filter_events
  have requests : (⟨d, op⟩ : Moment).reply.answer.requests = [] := by
    refine requests_eq_nil d ?_
    rintro rfl
    exact nomatch addressed
  unfold Moment.share
  rw [if_neg foreign, telemetry, Moment.delivered_about, events, requests]
  rfl

/-! ## Two runs -/

/-- On dashboards that agree on a chart, a run and the run of what concerns the chart show the same of
it. The induction is on the run: what concerns the chart is carried out on both dashboards, the rest on
the first one only. -/
theorem observe_of_agree (a : d.Agree c e) (consistent : d.Consistent) (ops : List Operation) :
    d.observe c ops = e.observe c (ops.filter (·.concerns c)) := by
  induction ops generalizing d e with
  | nil => exact observe_nil a
  | cons op rest ih =>
    have next := consistent.step op
    rcases op.addressee c with shared | own | ⟨k, addressed, other⟩
    · have kept : op.concerns c = true := by simp [Operation.concerns, shared]
      rw [List.filter_cons, if_pos kept, observe_cons, observe_cons, share_shared a shared,
        ih (agree_shared a shared) next]
    · have kept : op.concerns c = true := by simp [Operation.concerns, own]
      have agree : (d.step op).1.Agree c (e.step op).1 := (alike_perform a own).agree
      rw [List.filter_cons, if_pos kept, observe_cons, observe_cons, share_own a own, ih agree next]
    · have dropped : ¬ op.concerns c = true := by simp [Operation.concerns, addressed, other]
      have agree : d.Agree c (d.step op).1 := (spares_perform consistent addressed other).agree
      rw [List.filter_cons, if_neg dropped, observe_cons, share_other consistent addressed other,
        Share.before_nothing, ih (agree.symm.trans a) next]

end Dashboard

/-- Take any run and any chart, and leave out of the run every operation that is addressed to another
chart. What is observed of the chart is the same in both runs. -/
theorem charts_are_independent (registry : Registry) (namer : ClassNamer) (clock : Clock)
    (sink : TelemetrySink) (hooks : Hooks) (ops : List Operation) (c : ChartId) :
    let d := Dashboard.new registry namer clock sink hooks
    d.observe c ops = d.observe c (ops.filter (·.concerns c)) := by
  intro d
  have consistent : d.Consistent := Dashboard.consistent_after []
  exact Dashboard.observe_of_agree (.refl c d) consistent ops

end Redraw
