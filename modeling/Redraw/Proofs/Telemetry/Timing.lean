import Redraw.Proofs.Attempt.Completions

/-!
# Telemetry times what is completed

A telemetry event pairs what was known when an attempt began with what is known when it is completed,
and many attempts may begin and end in between. The history has both moments. `TimedLog` says from the
history alone what the sink is handed in a run: for every completion of an attempt that brought a new
query result, the event that times it from its own beginning, and nothing else.
-/

namespace Redraw

/-- The newest attempt of a chart: it began at a moment, with an input and a record, and no attempt of the
chart has begun since. -/
structure BegunLast (c : ChartId) (a : AttemptId) (b : Moment) (i : RenderInput) (r : AttemptRecord)
    (h : History) : Prop where
  newest : Since (· = b) (fun m => (m.begun? c).isSome) h
  input : b.op.input? = some i
  record : b.reply.answer.begun? = some r
  chart : r.chart = c
  attempt : r.attempt = a

/-- The event that times an attempt which began with an input at the moment `b` and is completed at the
moment `m`. -/
def timing (b m : Moment) (i : RenderInput) (e : Ending) : TelemetryEvent where
  kind := .render
  chart := i.chart
  vizType := i.vizType
  startOffset := b.before.clock.now
  timestamp := m.before.clock.wall
  duration := m.before.clock.now - b.before.clock.now
  failed :=
    match e with
    | .success => false
    | .failure _ _ => true
  errorDetail :=
    match e with
    | .success => none
    | .failure error _ => some error

/-- What the sink is to be handed at a moment, by the history before it: the timing of the attempt that is
completed, if that attempt brought a new query result. -/
inductive Owed (h : History) (m : Moment) : List TelemetryEvent → Prop where
  | nothing (idle : m.completion? = none) : Owed h m []
  | untimed (x : Completion) (b : Moment) (i : RenderInput) (r : AttemptRecord)
      (completed : m.completion? = some x) (begun : BegunLast x.chart x.attempt b i r (h ++ [m]))
      (same : r.resultChanged = false) : Owed h m []
  | timed (x : Completion) (b : Moment) (i : RenderInput) (r : AttemptRecord)
      (completed : m.completion? = some x) (begun : BegunLast x.chart x.attempt b i r (h ++ [m]))
      (changed : r.resultChanged = true) : Owed h m [timing b m i x.ending]

/-- What the sink is to be handed in a run with this history. -/
inductive TimedLog : History → List TelemetryEvent → Prop where
  | nil : TimedLog [] []
  | snoc {h : History} {m : Moment} {log new : List TelemetryEvent} (before : TimedLog h log)
      (owed : Owed h m new) : TimedLog (h ++ [m]) (log ++ new)

/-! ## Records of attempts -/

variable {c : ChartId} {a : AttemptId} {b m : Moment} {i : RenderInput} {r : AttemptRecord}
  {h : History} {d : Dashboard}

/-- The telemetry of a record is the timing of the attempt that began with it. -/
theorem BegunLast.telemetry_eq (begun : BegunLast c a b i r h) (m : Moment) (e : Ending) :
    r.telemetry m.before.clock e = timing b m i e := by
  rw [eq_nextRecord_of_begun begun.input begun.record]
  cases e <;> rfl

theorem BegunLast.rest (begun : BegunLast c a b i r h) (idle : m.begun? c = none) :
    BegunLast c a b i r (h ++ [m]) :=
  { begun with newest := since_snoc.2 (.inr ⟨begun.newest, by simp [idle]⟩) }

/-- An attempt that begins at a moment is the newest one of its chart. -/
theorem BegunLast.now (input : m.op.input? = some i) (record : m.reply.answer.begun? = some r) :
    BegunLast r.chart r.attempt m i r (h ++ [m]) where
  newest := since_snoc.2 (.inl rfl)
  input := input
  record := record
  chart := rfl
  attempt := rfl

/-- The record of an outstanding attempt is the one that it was begun with. -/
def Dashboard.Recorded (h : History) (d : Dashboard) : Prop :=
  ∀ c t r, d.tracks.get? c = some t → t.active = some r → ∃ b i, BegunLast c r.attempt b i r h

/-- Every moment keeps the records. -/
theorem Dashboard.Recorded.step (k : m.before.Recorded h) : m.after.Recorded (h ++ [m]) := by
  intro c t r known active
  cases m.move c with
  | begins i input chart begun _ _ track _ =>
    obtain rfl := Option.some.inj (track.symm.trans known)
    obtain ⟨s, record, rfl, -⟩ := Moment.answer_of_begun? begun
    obtain rfl : r = s :=
      (eq_nextRecord_of_active active).trans (eq_nextRecord_of_begun input record).symm
    exact ⟨m, i, .now input record⟩
  | settles s _ e _ _ _ _ _ track _ =>
    obtain rfl := Option.some.inj (track.symm.trans known)
    exact nomatch active
  | forgets s _ _ _ _ track _ =>
    rw [track] at known
    exact nomatch known
  | rests idle _ _ track _ =>
    obtain ⟨b, i, begun⟩ := k c t r (track.symm.trans known) active
    exact ⟨b, i, begun.rest idle⟩

section Fresh

variable {registry : Registry} {namer : ClassNamer} {clock : Clock} {sink : TelemetrySink}
  {hooks : Hooks}

theorem Dashboard.Recorded.fresh : (new registry namer clock sink hooks).Recorded [] := by
  intro c t r known
  simp [new] at known

/-- The records are kept throughout every run. -/
theorem Dashboard.Recorded.run (ops : List Operation) :
    ((new registry namer clock sink hooks).after ops).Recorded
      ((new registry namer clock sink hooks).history ops) :=
  run_induction .fresh (fun _ e op k => k.step (m := ⟨e, op⟩)) ops

end Fresh

/-! ## What is handed to the sink -/

/-- Of a completed attempt the sink is handed its timing exactly if the attempt brought a new result. -/
theorem owed_of_completion {x : Completion} (completed : m.completion? = some x)
    (begun : BegunLast x.chart x.attempt b i r (h ++ [m]))
    (handed : m.handed = if r.resultChanged then [r.telemetry m.before.clock x.ending] else []) :
    Owed h m m.handed := by
  rw [begun.telemetry_eq] at handed
  cases changed : r.resultChanged with
  | true =>
    rw [handed, changed]
    exact .timed x b i r completed begun changed
  | false =>
    rw [handed, changed]
    exact .untimed x b i r completed begun changed

/-- Every moment hands the sink what it owes. -/
theorem owed (k : m.before.Recorded h) : Owed h m m.handed := by
  cases m.finish with
  | called x r _ settled idle completed handed _ _ =>
    obtain ⟨t, known, -, active, attempt⟩ := Dashboard.settle_eq_ok.1 settled
    obtain ⟨b, i, begun⟩ := k x.chart t r known active
    rw [attempt] at begun
    exact owed_of_completion completed (begun.rest (Moment.begun?_of_none idle)) handed
  | refused i fault input _ record completed handed _ _ =>
    exact owed_of_completion completed (.now input record) handed
  | nothing idle handed _ =>
    rw [handed]
    exact .nothing idle

theorem timedLog_run {registry : Registry} {namer : ClassNamer} {clock : Clock}
    {sink : TelemetrySink} {hooks : Hooks} (ops : List Operation) :
    TimedLog ((Dashboard.new registry namer clock sink hooks).history ops)
      (((Dashboard.new registry namer clock sink hooks).history ops).flatMap (·.handed)) := by
  refine (Dashboard.run_induction
    (I := fun h d => d.Recorded h ∧ TimedLog h (h.flatMap (·.handed))) ⟨.fresh, .nil⟩ ?_ ops).2
  rintro h e op ⟨k, log⟩
  refine ⟨k.step (m := ⟨e, op⟩), ?_⟩
  rw [List.flatMap_append, List.flatMap_singleton]
  exact log.snoc (owed k)

/-! ## There is only one such log -/

theorem BegunLast.isSome (begun : BegunLast c a b i r h) : (b.begun? c).isSome := by
  rw [Moment.begun?_of_answer begun.record, if_pos begun.chart]
  rfl

/-- The newest attempt of a chart began at one moment, with one input and one record. -/
theorem BegunLast.unique {b' : Moment} {i' : RenderInput} {r' : AttemptRecord}
    (left : BegunLast c a b i r h) (right : BegunLast c a b' i' r' h) : b = b' ∧ i = i' ∧ r = r' := by
  obtain rfl : b = b' := since_unique left.newest right.newest left.isSome right.isSome
  have input := left.input.symm.trans right.input
  have record := left.record.symm.trans right.record
  exact ⟨rfl, Option.some.inj input, Option.some.inj record⟩

theorem Owed.unique {log log' : List TelemetryEvent} (left : Owed h m log) (right : Owed h m log') :
    log = log' := by
  cases left with
  | nothing idle =>
    cases right with
    | nothing _ | untimed _ _ _ _ _ _ _ => rfl
    | timed _ _ _ _ completed _ _ =>
      rw [idle] at completed
      exact nomatch completed
  | untimed x b i r completed begun same =>
    cases right with
    | nothing idle | untimed _ _ _ _ _ _ _ => rfl
    | timed x' b' i' r' completed' begun' changed =>
      obtain rfl := Option.some.inj (completed.symm.trans completed')
      obtain ⟨-, -, rfl⟩ := begun.unique begun'
      exact absurd changed (by simp [same])
  | timed x b i r completed begun changed =>
    cases right with
    | nothing idle =>
      rw [idle] at completed
      exact nomatch completed
    | untimed x' b' i' r' completed' begun' same =>
      obtain rfl := Option.some.inj (completed.symm.trans completed')
      obtain ⟨-, -, rfl⟩ := begun.unique begun'
      exact absurd changed (by simp [same])
    | timed x' b' i' r' completed' begun' _ =>
      obtain rfl := Option.some.inj (completed.symm.trans completed')
      obtain ⟨rfl, rfl, -⟩ := begun.unique begun'
      rfl

theorem TimedLog.unique {log log' : List TelemetryEvent} (left : TimedLog h log)
    (right : TimedLog h log') : log = log' := by
  -- Both logs are taken apart at the newest moment, which they share as their histories are the same.
  induction left generalizing log' with
  | nil =>
    generalize empty : ([] : History) = h at right
    cases right with
    | nil => rfl
    | snoc _ _ => simp at empty
  | @snoc h m log new before owed ih =>
    generalize split : h ++ [m] = g at right
    cases right with
    | nil => simp at split
    | @snoc h' m' _ _ before' owed' =>
      obtain ⟨rfl, last⟩ := List.append_inj' split rfl
      obtain rfl : m = m' := by simpa using last
      rw [ih before', owed.unique owed']

/-! ## What the sink keeps, and what a callback says -/

/-- A callback as it is addressed by chart and number alone. -/
def Operation.byNumber : Operation → Operation
  | .completeRecord r e => .complete r.chart r.attempt e
  | op => op

theorem step_byNumber (d : Dashboard) (op : Operation) : d.step op.byNumber = d.step op := by
  cases op <;> rfl

/-- What a record says beside its chart and its number makes no difference to a run. -/
theorem run_byNumber (d : Dashboard) (ops : List Operation) :
    d.run (ops.map .byNumber) = d.run ops := by
  induction ops generalizing d with
  | nil => rfl
  | cons op rest ih => simp only [List.map_cons, Dashboard.run, step_byNumber, ih]

/-- The sink keeps its part of what it is handed. -/
theorem telemetry_eq_kept (d : Dashboard) (ops : List Operation) :
    (d.run ops).2.flatMap (·.telemetry) = d.sink.kept ((d.history ops).flatMap (·.handed)) := by
  rw [Dashboard.replies_eq_history, List.flatMap_map]
  induction ops generalizing d with
  | nil => exact d.sink.kept_nil.symm
  | cons op rest ih =>
    rw [Dashboard.history_cons, List.flatMap_cons, List.flatMap_cons, ih, d.step_sink,
      TelemetrySink.kept_append]
    rfl

/-- Take any run. What the telemetry sink is handed, in order, is one event for every completion of an
attempt that brought a new query result when it began, and nothing else. Each event times the attempt from
the moment at which it began to the moment at which it is completed. What a recording sink keeps is all
of it, and a discarding one keeps none. A callback with a record goes by its chart and its number alone,
whatever else the record says. -/
theorem telemetry_times_completions (registry : Registry) (namer : ClassNamer) (clock : Clock)
    (sink : TelemetrySink) (hooks : Hooks) (ops : List Operation) :
    let d := Dashboard.new registry namer clock sink hooks
    let handed := (d.history ops).flatMap (·.handed)
    (∀ log, TimedLog (d.history ops) log ↔ log = handed) ∧
    (d.run ops).2.flatMap (·.telemetry) = sink.kept handed ∧
    d.run (ops.map .byNumber) = d.run ops := by
  intro d handed
  have timed : TimedLog (d.history ops) handed := timedLog_run ops
  refine ⟨fun log => ⟨fun other => other.unique timed, ?_⟩, telemetry_eq_kept d ops, run_byNumber d ops⟩
  rintro rfl
  exact timed

end Redraw
