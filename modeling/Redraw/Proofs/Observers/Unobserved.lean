import Redraw.Proofs.Observers.Attendance

/-!
# What observers change

A dashboard without its observers does the same as with them, and what is done to the observers is not seen on it.
So two runs that differ in nothing but what they do to the observers find the same dashboards, apart from the
observers, and get the same replies, apart from who receives what.
-/

namespace Redraw

/-- The dashboard without its observers. -/
def Dashboard.unobserved (d : Dashboard) : Dashboard := { d with observers := [] }

/-- The outcome of an action on the dashboard without its observers. -/
def Outcome.unobserved {α : Type} (o : Outcome α) : Outcome α :=
  { o with dashboard := o.dashboard.unobserved }

/-- The reply as it is with nobody there to receive anything. -/
def Reply.unobserved (r : Reply) : Reply := { r with delivered := [] }

/-- The moment as it is without observers. -/
def Moment.unobserved (m : Moment) : Moment := { m with before := m.before.unobserved }

/-! ## One operation -/

namespace Dashboard

theorem begin_unobserved (d : Dashboard) (i : RenderInput) :
    d.unobserved.begin i = (d.begin i).unobserved := by
  cases refusal : i.refusal? with
  | none =>
    rw [begin_accepted refusal, begin_accepted refusal]
    rfl
  | some fault =>
    rw [begin_refused refusal, begin_refused refusal]
    rfl

/-- What is settled depends on the tracks, and observers have no part in them. -/
theorem settle_unobserved (d : Dashboard) (c : ChartId) (a : AttemptId) :
    (d.unobserved.settle c a).1 = (d.settle c a).1 := by
  have tracks : d.unobserved.tracks = d.tracks := rfl
  rw [settle, settle, tracks]
  cases d.tracks.get? c <;> rfl

theorem complete_unobserved (d : Dashboard) (c : ChartId) (a : AttemptId) (e : Ending) :
    d.unobserved.complete c a e = (d.complete c a e).unobserved := by
  cases settled : (d.settle c a).1 with
  | error reason =>
    have alike : (d.unobserved.settle c a).1 = .error reason :=
      (d.settle_unobserved c a).trans settled
    rw [complete_dropped settled, complete_dropped alike]
    rfl
  | ok r =>
    have alike : (d.unobserved.settle c a).1 = .ok r :=
      (d.settle_unobserved c a).trans settled
    rw [complete_applied settled, complete_applied alike]
    rfl

/-- Neither the gate nor the status knows of observers. -/
theorem consider_unobserved (d : Dashboard) (i : RenderInput) :
    d.unobserved.consider i = (d.consider i).unobserved := by
  have decision : d.unobserved.decision? i = d.decision? i := rfl
  have snapshot : d.unobserved.board = d.board := rfl
  rw [consider, consider, decision, snapshot]
  cases (d.decision? i).filter (!·.isRedraw) with
  | some decision => rfl
  | none =>
    cases SkipReason.of? (d.board.snapshot i.chart) with
    | some reason => rfl
    | none =>
      simp only [begin_unobserved]
      rfl

/-- An input is treated alike with and without observers. -/
theorem submit_unobserved (d : Dashboard) (i : RenderInput) :
    d.unobserved.submit i = (d.submit i).unobserved := by
  rw [submit, submit, consider_unobserved]
  rfl

theorem forget_unobserved (d : Dashboard) (c : ChartId) :
    d.unobserved.forget c = (d.forget c).unobserved := by
  have tracks : d.unobserved.tracks = d.tracks := rfl
  rw [forget, forget, tracks]
  cases d.tracks.get? c <;> rfl

theorem remove_unobserved (d : Dashboard) (c : ChartId) :
    d.unobserved.remove c = (d.remove c).unobserved := by
  rw [remove_eq, remove_eq, forget_unobserved]
  rfl

/-- What is done to something else than the observers does the same without them. -/
theorem perform_unobserved {d : Dashboard} {op : Operation} (plain : op.isRoster = false) :
    d.unobserved.perform op = (d.perform op).unobserved := by
  cases op with
  | submit i => simp only [perform, submit_unobserved, Outcome.unobserved]
  | begin i => simp only [perform, begin_unobserved, Outcome.unobserved]
  | complete c a e => simp only [perform, complete_unobserved, Outcome.unobserved]
  | completeRecord r e => simp only [perform, completeRecord, complete_unobserved, Outcome.unobserved]
  | remove c => simp only [perform, remove_unobserved, Outcome.unobserved]
  | forget c => simp only [perform, forget_unobserved, Outcome.unobserved]
  | addStrategy v s =>
    have registry : d.unobserved.registry = d.registry := rfl
    rw [perform, perform, registry]
    cases d.registry.register v s <;> rfl
  | addObserver _ | removeObserver _ | findObserver _ => exact nomatch plain
  | _ => rfl

theorem deliveries_unobserved (events : List LifecycleEvent) : deliveries [] events = [] :=
  List.flatMap_eq_nil_iff.2 fun _ _ => rfl

/-- What is done to the observers changes nothing else and emits nothing. -/
theorem perform_roster {d : Dashboard} {op : Operation} (roster : op.isRoster = true) :
    (d.perform op).dashboard.unobserved = d.unobserved ∧ (d.perform op).emitted = {} := by
  cases op with
  | addObserver id =>
    obtain ⟨answer, observers, -, outcome⟩ := d.addObserver_outcome id
    rw [perform_addObserver, outcome]
    exact ⟨rfl, rfl⟩
  | removeObserver _ | findObserver _ => exact ⟨rfl, rfl⟩
  | _ => exact nomatch roster

end Dashboard

namespace Moment

variable {m : Moment}

/-- After other operations the dashboard without observers is what the operation makes of the one without
observers. -/
theorem after_unobserved (plain : m.op.isRoster = false) : m.unobserved.after = m.after.unobserved :=
  congrArg (·.dashboard) (Dashboard.perform_unobserved plain)

/-- Without observers, the reply is the same, but nobody receives anything. -/
theorem reply_unobserved (plain : m.op.isRoster = false) : m.unobserved.reply = m.reply.unobserved := by
  have performed : m.before.unobserved.perform m.op = (m.before.perform m.op).unobserved :=
    Dashboard.perform_unobserved plain
  show (m.before.unobserved.step m.op).2 = _
  rw [Dashboard.step, performed]
  show Reply.mk _ _ _ (Dashboard.deliveries [] _) _ = _
  rw [Dashboard.deliveries_unobserved]
  rfl

/-- What is done to the observers leaves the rest of the dashboard. -/
theorem after_of_roster (roster : m.op.isRoster = true) : m.after.unobserved = m.before.unobserved :=
  (Dashboard.perform_roster roster).1

theorem events_of_roster (roster : m.op.isRoster = true) : m.reply.events = [] :=
  congrArg (·.events) (Dashboard.perform_roster (d := m.before) roster).2

theorem telemetry_of_roster (roster : m.op.isRoster = true) : m.reply.telemetry = [] := by
  have emitted := (Dashboard.perform_roster (d := m.before) roster).2
  show m.before.sink.kept (m.before.perform m.op).emitted.telemetry = []
  rw [emitted]
  exact TelemetrySink.kept_nil _

end Moment

/-! ## Runs -/

namespace Dashboard

/-- A run without what it does to the observers finds the same dashboards without the observers. -/
theorem history_unobserved (d : Dashboard) (ops : List Operation) :
    d.unobserved.history (ops.filter (!·.isRoster)) =
      ((d.history ops).filter (!·.op.isRoster)).map (·.unobserved) := by
  induction ops generalizing d with
  | nil => rfl
  | cons op rest ih =>
    rw [history_cons, List.filter_cons, List.filter_cons]
    cases roster : op.isRoster with
    | true =>
      have still : (d.step op).1.unobserved = d.unobserved := Moment.after_of_roster (m := ⟨d, op⟩) roster
      rw [← still]
      exact ih _
    | false =>
      have next : (d.unobserved.step op).1 = (d.step op).1.unobserved :=
        Moment.after_unobserved (m := ⟨d, op⟩) roster
      simp only [Bool.not_false, if_true, history_cons, next, ih, List.map_cons]
      rfl

/-- A run without what it does to the observers leads to the same dashboard without the observers. -/
theorem after_unobserved (d : Dashboard) (ops : List Operation) :
    d.unobserved.after (ops.filter (!·.isRoster)) = (d.after ops).unobserved := by
  induction ops generalizing d with
  | nil => rfl
  | cons op rest ih =>
    rw [after_cons, List.filter_cons]
    cases roster : op.isRoster with
    | true =>
      have still : (d.step op).1.unobserved = d.unobserved := Moment.after_of_roster (m := ⟨d, op⟩) roster
      rw [← still]
      exact ih _
    | false =>
      have next : (d.unobserved.step op).1 = (d.step op).1.unobserved :=
        Moment.after_unobserved (m := ⟨d, op⟩) roster
      simp only [Bool.not_false, if_true, after_cons, next, ih]

/-- The replies of a run without what it does to the observers. -/
theorem replies_unobserved (d : Dashboard) (ops : List Operation) :
    (d.unobserved.history (ops.filter (!·.isRoster))).map (·.reply) =
      ((d.history ops).filter (!·.op.isRoster)).map (·.reply.unobserved) := by
  rw [history_unobserved, List.map_map]
  refine List.map_congr_left fun m inside => Moment.reply_unobserved ?_
  simpa using (List.mem_filter.1 inside).2

/-- What is listed in the replies of a run, but not in those to what is done to the observers, is listed without
the observers as well. -/
theorem flatMap_unobserved {α : Type} {f : Reply → List α} (blind : ∀ r : Reply, f r.unobserved = f r)
    (silent : ∀ m : Moment, m.op.isRoster = true → f m.reply = []) (d : Dashboard) (ops : List Operation) :
    ((d.unobserved.history (ops.filter (!·.isRoster))).map (·.reply)).flatMap f =
      (d.history ops).flatMap fun m => f m.reply := by
  rw [replies_unobserved, List.flatMap_map]
  induction d.history ops with
  | nil => rfl
  | cons m rest ih =>
    rw [List.filter_cons, List.flatMap_cons]
    cases roster : m.op.isRoster with
    | true =>
      rw [silent m roster]
      exact ih
    | false =>
      rw [Bool.not_false, if_pos rfl, List.flatMap_cons, blind, ih]

end Dashboard

/-- Take any run. The observers that are listed after it have identifiers, are listed once each, and are the ones
that were added and have not been removed since. Adding one is refused exactly if it has no identifier or is
listed already, and then the dashboard stays as it is. At every moment, those that attend receive what is told,
once and in its order, and the others receive nothing. So an observer receives all that is told from the moment at
which it is added until it is removed, and nothing beside. What is done to the observers changes nothing else and
emits nothing. Take a second run that differs from the first only in what it does to the observers. It carries out
the other operations on the same dashboards, apart from the observers, and gets the same replies, apart from who
receives what. In the end the phases, the requests of the engine, the board and all else on the dashboard are the
same, and so are the telemetry and what was told. -/
theorem observers_hear_everything_and_change_nothing (registry : Registry) (namer : ClassNamer) (clock : Clock)
    (sink : TelemetrySink) (hooks : Hooks) (ops : List Operation) :
    let start := Dashboard.new registry namer clock sink hooks
    let h := start.history ops
    let d := start.after ops
    ((∀ id ∈ d.observers, id ≠ "") ∧ d.observers.Nodup ∧ ∀ id, id ∈ d.observers ↔ Attends id h) ∧
    (∀ id, let after := d.step (.addObserver id)
      ((∃ fault, after.2.answer = .refusal fault) ↔ id = "" ∨ id ∈ d.observers) ∧
      (id = "" ∨ id ∈ d.observers → after.1 = d) ∧
      (¬ (id = "" ∨ id ∈ d.observers) →
        after.2.answer = .done ∧ after.1 = { d with observers := d.observers ++ [id] })) ∧
    (∀ id earlier m later, h = earlier ++ m :: later →
      (Attends id earlier → received id [m] = m.reply.events) ∧
      (¬ Attends id earlier → received id [m] = [])) ∧
    (∀ id earlier stay later, h = earlier ++ stay ++ later →
      (Attends id earlier → (∀ m ∈ stay, ¬ m.Leaves id) → received id stay = told stay) ∧
      (¬ Attends id earlier → (∀ m ∈ stay, ¬ m.Joins id) → received id stay = [])) ∧
    (∀ m ∈ h, m.op.isRoster = true →
      m.after.unobserved = m.before.unobserved ∧ m.reply.events = [] ∧ m.reply.telemetry = []) ∧
    ∀ ops', ops'.filter (!·.isRoster) = ops.filter (!·.isRoster) →
      let h' := start.history ops'
      (h'.filter (!·.op.isRoster)).map (·.unobserved) = (h.filter (!·.op.isRoster)).map (·.unobserved) ∧
      (h'.filter (!·.op.isRoster)).map (·.reply.unobserved) =
        (h.filter (!·.op.isRoster)).map (·.reply.unobserved) ∧
      (start.after ops').unobserved = d.unobserved ∧
      h'.flatMap (·.reply.telemetry) = h.flatMap (·.reply.telemetry) ∧ told h' = told h := by
  intro start h d
  have roster : Roster h d := .run registry namer clock sink hooks ops
  refine ⟨⟨roster.named, roster.distinct, roster.listed⟩, ?added, ?moment, ?stretch, ?quiet, ?blind⟩
  case added =>
    exact fun id => Dashboard.refused_exactly Dashboard.addObserver_refused Dashboard.addObserver_done
  case moment =>
    exact fun id earlier m later => received_at
  case stretch =>
    exact fun id earlier stay later split => ⟨received_attending split, received_absent split⟩
  case quiet =>
    intro m _ about
    exact ⟨Moment.after_of_roster about, Moment.events_of_roster about, Moment.telemetry_of_roster about⟩
  case blind =>
    intro ops' alike h'
    refine ⟨?_, ?_, ?_, ?_, ?_⟩
    · rw [← start.history_unobserved, alike, start.history_unobserved]
    · rw [← start.replies_unobserved, alike, start.replies_unobserved]
    · rw [← start.after_unobserved, alike, start.after_unobserved]
    · have listed := start.flatMap_unobserved (f := (·.telemetry)) (fun _ => rfl)
        fun _ => Moment.telemetry_of_roster
      rw [← listed, alike, listed]
    · have listed := start.flatMap_unobserved (f := (·.events)) (fun _ => rfl) fun _ => Moment.events_of_roster
      rw [told, told, ← listed, alike, listed]

/-- An observer that cannot be added twice receives what is told of an attempt that fails at once, and nothing of
the one after it was removed. Without it, both attempts are told of as well. -/
theorem removed_observer_misses_second_attempt :
    let untyped := { RenderInput.loaded ⟨7⟩ with vizType := ⟨""⟩ }
    let ops : List Operation := [.addObserver "log", .addObserver "log", .begin untyped, .removeObserver "log",
      .begin untyped]
    let h := Dashboard.blank.history ops
    let alone := Dashboard.blank.history [.begin untyped, .begin untyped]
    received "log" ((h.drop 2).take 1) = [.attemptBegun ⟨7⟩ ⟨1⟩ true, .failed ⟨7⟩ ⟨1⟩] ∧
      received "log" (h.drop 4) = [] ∧
      told alone = told h ∧ told h = [.attemptBegun ⟨7⟩ ⟨1⟩ true, .failed ⟨7⟩ ⟨1⟩,
        .attemptBegun ⟨7⟩ ⟨2⟩ false, .failed ⟨7⟩ ⟨2⟩] := by
  intro untyped ops h alone
  have hears := observers_hear_everything_and_change_nothing ∅ .default { epoch := 0 } .recording {} ops
  obtain ⟨-, -, -, stretch, -, blind⟩ := hears
  have added : Attends "log" (h.take 2) := by
    refine ⟨[], ⟨.blank, .addObserver "log"⟩, (h.drop 1).take 1, rfl, ⟨rfl, rfl⟩, ?_⟩
    intro m inside left
    obtain rfl := List.mem_singleton.1 inside
    cases left
  have removed : ¬ Attends "log" (h.take 4) := by
    have snoc : h.take 4 = h.take 3 ++ [⟨Dashboard.blank.after (ops.take 3), .removeObserver "log"⟩] := rfl
    rw [snoc, Attends, since_snoc]
    rintro (⟨joined, -⟩ | ⟨-, remains⟩)
    · cases joined
    · exact remains rfl
  have attending := (stretch "log" (h.take 2) ((h.drop 2).take 1) (h.drop 3) rfl).1 added
  have absent := (stretch "log" (h.take 4) (h.drop 4) [] rfl).2 removed
  refine ⟨(attending ?_).trans rfl, absent ?_, (blind [.begin untyped, .begin untyped] rfl).2.2.2.2, rfl⟩
  · intro m inside left
    obtain rfl := List.mem_singleton.1 inside
    cases left
  · rintro m inside ⟨joined, -⟩
    obtain rfl := List.mem_singleton.1 inside
    cases joined

end Redraw
