import Redraw.Proofs.Attempt.Announcements

/-!
# Dropped callbacks

A callback that comes too late is dropped. Observers are told why, and the dashboard stays what it was, so
the next operation finds what it would have found without the callback. The callbacks that are dropped in a
run can be left out of it: the other moments of its history are the same, one by one.
-/

namespace Redraw

/-- The reply to a callback that is dropped: every observer is told so, and nothing else is emitted. -/
def Reply.dropped (observers : List String) (c : ChartId) (a : AttemptId) (reason : DropReason) :
    Reply where
  answer := .callback (.dropped reason)
  telemetry := []
  events := [.callbackDropped c a reason]
  delivered := observers.map fun o => (o, .callbackDropped c a reason)
  calls := []

/-- No callback is dropped at the moment. -/
def Moment.isHeeded (m : Moment) : Bool := !m.reply.answer.isDropped

/-- The operations of a run without the callbacks that are dropped in it. -/
def Dashboard.heeded (d : Dashboard) (ops : List Operation) : List Operation :=
  ((d.history ops).filter (·.isHeeded)).map (·.op)

/-! ## One callback -/

namespace Dashboard

variable {d : Dashboard} {op : Operation} {c : ChartId} {a : AttemptId} {reason : DropReason}

/-- A dropped callback leaves the dashboard as it is. -/
theorem step_dropped (called : op.callback? = some (c, a))
    (dropped : (d.step op).2.answer = .callback (.dropped reason)) :
    d.step op = (d, .dropped d.observers c a reason) := by
  obtain ⟨e, performed⟩ := d.perform_of_callback called
  have answer : (d.step op).2.answer = .callback (d.complete c a e).value :=
    congrArg Outcome.value performed
  cases settled : (d.settle c a).1 with
  | ok r =>
    rw [answer, complete_applied settled] at dropped
    exact nomatch dropped
  | error late =>
    rw [complete_dropped settled] at performed answer
    obtain rfl : late = reason :=
      CallbackOutcome.dropped.inj (Answer.callback.inj (answer.symm.trans dropped))
    simp only [step, performed, Emissions.event, deliveries, List.flatMap_singleton,
      TelemetrySink.kept_nil]
    rfl

end Dashboard

namespace Moment

variable {m : Moment}

/-- What a moment tells beside a dropped callback is told where no callback is dropped. -/
theorem heeded_events (m : Moment) :
    m.reply.events.filter (!·.isDropped) = if m.isHeeded then m.reply.events else [] := by
  unfold isHeeded
  cases m.announcement with
  | begins r begun _ events | refuses r _ begun _ events =>
    rw [(not_callback_of_begun begun).2, events]
    rfl
  | completes x signaled emitted answer _ events =>
    rw [answer, events]
    cases x.ending <;> rfl
  | drops c a reason _ answer _ events | withholds c decision answer _ events =>
    rw [answer, events]
    rfl
  | nothing _ _ heeded _ events =>
    rw [heeded, events]
    rfl

/-- A moment at which a callback is dropped changes nothing and tells of it only. -/
theorem step_of_dropped (dropped : m.isHeeded = false) :
    ∃ c a reason, m.before.step m.op = (m.before, .dropped m.before.observers c a reason) := by
  unfold isHeeded at dropped
  cases m.announcement with
  | begins r begun _ _ | refuses r _ begun _ _ =>
    rw [(not_callback_of_begun begun).2] at dropped
    exact nomatch dropped
  | completes x signaled emitted answer _ _ =>
    rw [answer] at dropped
    exact nomatch dropped
  | drops c a reason called answer _ _ => exact ⟨c, a, reason, Dashboard.step_dropped called answer⟩
  | withholds c decision answer _ _ =>
    rw [answer] at dropped
    exact nomatch dropped
  | nothing _ _ heeded _ _ =>
    rw [heeded] at dropped
    exact nomatch dropped

/-- Where a callback is dropped, the next moment finds the same dashboard. -/
theorem after_of_dropped (dropped : m.isHeeded = false) : m.after = m.before := by
  obtain ⟨c, a, reason, step⟩ := step_of_dropped dropped
  exact congrArg Prod.fst step

/-- Where a callback is dropped, nothing is handed to the telemetry sink. -/
theorem telemetry_of_dropped (dropped : m.isHeeded = false) : m.reply.telemetry = [] := by
  obtain ⟨c, a, reason, step⟩ := step_of_dropped dropped
  exact congrArg (·.2.telemetry) step

/-- What observers receive beside a dropped callback they receive where no callback is dropped. -/
theorem heeded_delivered (m : Moment) :
    m.reply.delivered.filter (!·.2.isDropped) = if m.isHeeded then m.reply.delivered else [] := by
  have delivered : m.reply.delivered = Dashboard.deliveries m.before.observers m.reply.events := rfl
  rw [delivered, Dashboard.filter_deliveries _ _ fun e => !e.isDropped, heeded_events]
  split <;> rfl

theorem heeded_telemetry (m : Moment) :
    m.reply.telemetry = if m.isHeeded then m.reply.telemetry else [] := by
  split
  · rfl
  · next dropped => exact telemetry_of_dropped (Bool.eq_false_iff.2 dropped)

end Moment

/-! ## Runs -/

namespace Dashboard

theorem heeded_cons (d : Dashboard) (op : Operation) (ops : List Operation) :
    d.heeded (op :: ops) =
      if (⟨d, op⟩ : Moment).isHeeded then op :: (d.step op).1.heeded ops
      else (d.step op).1.heeded ops := by
  unfold heeded
  rw [history_cons, List.filter_cons]
  split <;> rfl

/-- The history of a run without its dropped callbacks is what the others leave of the history. -/
theorem history_heeded (d : Dashboard) (ops : List Operation) :
    d.history (d.heeded ops) = (d.history ops).filter (·.isHeeded) := by
  -- Both runs find the same dashboard before every operation that is kept.
  induction ops generalizing d with
  | nil => rfl
  | cons op rest ih =>
    rw [heeded_cons, history_cons, List.filter_cons]
    cases heeded : (⟨d, op⟩ : Moment).isHeeded with
    | true =>
      simp only [if_true, history_cons, ih]
    | false =>
      have still : (d.step op).1 = d := Moment.after_of_dropped heeded
      simp only [Bool.false_eq_true, if_false, still, ih]

theorem after_heeded (d : Dashboard) (ops : List Operation) :
    d.after (d.heeded ops) = d.after ops := by
  induction ops generalizing d with
  | nil => rfl
  | cons op rest ih =>
    rw [heeded_cons, after_cons]
    cases heeded : (⟨d, op⟩ : Moment).isHeeded with
    | true =>
      simp only [if_true, after_cons, ih]
    | false =>
      have still : (d.step op).1 = d := Moment.after_of_dropped heeded
      simp only [Bool.false_eq_true, if_false, still, ih]

/-- The replies of a run without its dropped callbacks are the other replies. -/
theorem replies_heeded (d : Dashboard) (ops : List Operation) :
    (d.run (d.heeded ops)).2 = (d.run ops).2.filter (!·.answer.isDropped) := by
  rw [replies_eq_history, replies_eq_history, history_heeded, List.filter_map]
  rfl

/-- What is listed in the replies of a run without its dropped callbacks is picked from what is listed in
all replies. -/
theorem flatMap_heeded {α : Type} {f : Reply → List α} {p : α → Bool}
    (picked : ∀ m : Moment, (f m.reply).filter p = if m.isHeeded then f m.reply else [])
    (d : Dashboard) (ops : List Operation) :
    (d.run (d.heeded ops)).2.flatMap f = ((d.run ops).2.flatMap f).filter p := by
  rw [replies_eq_history, replies_eq_history, history_heeded, List.flatMap_map, List.flatMap_map]
  induction d.history ops with
  | nil => rfl
  | cons m rest ih =>
    rw [List.flatMap_cons, List.filter_append, picked, List.filter_cons, ← ih]
    split <;> rfl

end Dashboard

/-- Take any run, from any dashboard, and any callback after it. If the callback is dropped, the dashboard
stays as it is and every observer is told of the chart, the attempt and the reason; nothing else is emitted.
So the callbacks that are dropped in the run can be left out of it. Every other operation is carried out on
the same dashboard as before, gets the same reply and leads to the same dashboard in the end. The telemetry
is the same, and observers are told the same but for the callbacks that were dropped. -/
theorem dropped_callbacks_change_nothing (d : Dashboard) (ops : List Operation) :
    (∀ op c a reason, op.callback? = some (c, a) →
      ((d.after ops).step op).2.answer = .callback (.dropped reason) →
      (d.after ops).step op = (d.after ops, .dropped (d.after ops).observers c a reason)) ∧
    d.history (d.heeded ops) = (d.history ops).filter (·.isHeeded) ∧
    d.after (d.heeded ops) = d.after ops ∧
    (d.run (d.heeded ops)).2 = (d.run ops).2.filter (!·.answer.isDropped) ∧
    (d.run (d.heeded ops)).2.flatMap (·.telemetry) = (d.run ops).2.flatMap (·.telemetry) ∧
    (d.run (d.heeded ops)).2.flatMap (·.events) =
      ((d.run ops).2.flatMap (·.events)).filter (!·.isDropped) ∧
    (d.run (d.heeded ops)).2.flatMap (·.delivered) =
      ((d.run ops).2.flatMap (·.delivered)).filter (!·.2.isDropped) := by
  refine ⟨fun op c a reason => Dashboard.step_dropped, d.history_heeded ops, d.after_heeded ops,
    d.replies_heeded ops, ?_, ?_, ?_⟩
  · have whole (log : List TelemetryEvent) : log.filter (fun _ => true) = log :=
      List.filter_eq_self.2 fun _ _ => rfl
    have kept := d.flatMap_heeded (f := (·.telemetry)) (fun m => (whole _).trans m.heeded_telemetry) ops
    rwa [whole] at kept
  · exact d.flatMap_heeded Moment.heeded_events ops
  · exact d.flatMap_heeded Moment.heeded_delivered ops

end Redraw
