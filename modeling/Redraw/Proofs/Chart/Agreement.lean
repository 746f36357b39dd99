import Redraw.Proofs.Attempt.Consistency

/-!
# Dashboards that agree on a chart

Charts share a dashboard. Two dashboards agree on a chart when they hold the same about it and share what
is not kept chart by chart; about the other charts they may differ in everything. What is done to the
chart goes the same way on both, and what is done to another chart leads to a dashboard that still agrees
and emits nothing about the chart. Each action has one lemma of either kind.
-/

namespace Redraw

/-- Two dashboards hold the same about a chart and share what is not kept chart by chart. -/
structure Dashboard.Agree (c : ChartId) (d e : Dashboard) : Prop where
  registry : d.registry = e.registry
  namer : d.namer = e.namer
  clock : d.clock = e.clock
  sink : d.sink = e.sink
  hooks : d.hooks = e.hooks
  observers : d.observers = e.observers
  board : d.board.get? c = e.board.get? c
  tracks : d.tracks.get? c = e.tracks.get? c
  retired : d.retired.get? c = e.retired.get? c
  seen : d.seen.get? c = e.seen.get? c
  pending : d.queue.pending.filter (·.chart = c) = e.queue.pending.filter (·.chart = c)

/-- Two actions go the same way for a chart. -/
structure Outcome.Alike {α : Type} (c : ChartId) (o p : Outcome α) : Prop where
  value : o.value = p.value
  agree : o.dashboard.Agree c p.dashboard
  emitted : o.emitted = p.emitted

/-- An action on a dashboard changes nothing about a chart and emits nothing about it. -/
structure Outcome.Spares {α : Type} (c : ChartId) (d : Dashboard) (o : Outcome α) : Prop where
  agree : d.Agree c o.dashboard
  telemetry : ∀ t ∈ o.emitted.telemetry, t.chart ≠ c
  events : ∀ e ∈ o.emitted.events, e.chart ≠ c

namespace Outcome

variable {α β : Type} {c : ChartId} {d : Dashboard} {o p : Outcome α}

/-- Actions that go the same way still do once the same is made of their values. -/
theorem Alike.map (same : o.Alike c p) (f : α → β) :
    Alike c { o with value := f o.value } { p with value := f p.value } :=
  ⟨congrArg f same.value, same.agree, same.emitted⟩

theorem Spares.map (spared : o.Spares c d) (f : α → β) : Spares c d { o with value := f o.value } :=
  ⟨spared.agree, spared.telemetry, spared.events⟩

/-- An action that spares a chart hands nothing about it to the sink. -/
theorem Spares.filter_telemetry (spared : o.Spares c d) :
    o.emitted.telemetry.filter (·.chart = c) = [] := by
  simpa [List.filter_eq_nil_iff] using spared.telemetry

/-- An action that spares a chart tells nothing about it. -/
theorem Spares.filter_events (spared : o.Spares c d) :
    o.emitted.events.filter (·.chart = c) = [] := by
  simpa [List.filter_eq_nil_iff] using spared.events

end Outcome

namespace Dashboard.Agree

variable {c k : ChartId} {d e f : Dashboard} {i : RenderInput}

theorem refl (c : ChartId) (d : Dashboard) : d.Agree c d := by
  constructor <;> rfl

theorem symm (a : d.Agree c e) : e.Agree c d := by
  constructor
  · exact a.registry.symm
  · exact a.namer.symm
  · exact a.clock.symm
  · exact a.sink.symm
  · exact a.hooks.symm
  · exact a.observers.symm
  · exact a.board.symm
  · exact a.tracks.symm
  · exact a.retired.symm
  · exact a.seen.symm
  · exact a.pending.symm

theorem trans (a : d.Agree c e) (b : e.Agree c f) : d.Agree c f := by
  constructor
  · exact a.registry.trans b.registry
  · exact a.namer.trans b.namer
  · exact a.clock.trans b.clock
  · exact a.sink.trans b.sink
  · exact a.hooks.trans b.hooks
  · exact a.observers.trans b.observers
  · exact a.board.trans b.board
  · exact a.tracks.trans b.tracks
  · exact a.retired.trans b.retired
  · exact a.seen.trans b.seen
  · exact a.pending.trans b.pending

/-! ## What is read from a dashboard -/

theorem entry_eq (a : d.Agree c e) : d.board.entry c = e.board.entry c :=
  congrArg (·.getD {}) a.board

theorem snapshot_eq (a : d.Agree c e) : d.board.snapshot c = e.board.snapshot c :=
  congrArg StatusEntry.snapshot a.entry_eq

theorem status_eq (a : d.Agree c e) : d.board.status? c = e.board.status? c :=
  congrArg StatusSnapshot.status a.snapshot_eq

/-- The next attempt of the chart continues the same track on both, also where the chart was removed before. -/
theorem track_eq (a : d.Agree c e) : d.track c = e.track c := by
  unfold track
  rw [a.tracks, a.retired]

/-- A callback for the chart takes the same record on both, or is dropped for the same reason. -/
theorem settle_eq (a : d.Agree c e) (n : AttemptId) : (d.settle c n).1 = (e.settle c n).1 := by
  unfold settle
  rw [a.tracks]
  cases e.tracks.get? c <;> rfl

/-- What an attempt is drawn with comes from the input and from what charts share. -/
theorem drawRequest_eq (a : d.Agree c e) (i : RenderInput) (n : AttemptId) :
    d.drawRequest i n = e.drawRequest i n := by
  unfold drawRequest
  rw [a.registry, a.namer]

/-- The next attempt of the chart gets the same number and the same time on both. -/
theorem nextRecord_eq (a : d.Agree i.chart e) : d.nextRecord i = e.nextRecord i := by
  unfold nextRecord
  rw [a.track_eq, a.clock]

/-- The gate compares an input of the chart with the same last input on both. -/
theorem decision_eq (a : d.Agree i.chart e) : d.decision? i = e.decision? i := by
  unfold decision?
  rw [a.seen, a.registry, a.snapshot_eq]

/-! ## Changes to one part of a dashboard -/

/-- The same change of the entry of the chart keeps the agreement. -/
theorem update (a : d.Agree c e) (change : StatusEntry → StatusEntry) :
    Agree c { d with board := d.board.update c change } { e with board := e.board.update c change } :=
  { a with board := by simp [StatusBoard.update, a.entry_eq] }

/-- A change of the entry of another chart does not touch the agreement. -/
theorem update_other (a : d.Agree c e) (other : k ≠ c) (change : StatusEntry → StatusEntry) :
    Agree c d { e with board := e.board.update k change } :=
  { a with board := by simp [StatusBoard.update, other, a.board] }

end Dashboard.Agree

/-- What an ending signals to the board is a change of one entry. -/
theorem Ending.signal_eq_update (x : Ending) :
    ∃ change, ∀ b c, x.signal b c = StatusBoard.update b c change := by
  cases x with
  | success =>
    unfold signal StatusBoard.signalSuccess
    exact ⟨_, fun _ _ => rfl⟩
  | failure error stack =>
    unfold signal StatusBoard.signalFailure
    exact ⟨_, fun _ _ => rfl⟩

namespace Dashboard

variable {c k : ChartId} {d e : Dashboard} {i : RenderInput}

/-- An ending that is signaled for the chart on both keeps the agreement. -/
theorem Agree.signal (a : d.Agree c e) (x : Ending) :
    Agree c { d with board := x.signal d.board c } { e with board := x.signal e.board c } := by
  obtain ⟨change, signal⟩ := x.signal_eq_update
  rw [signal, signal]
  exact a.update change

/-- An ending that is signaled for another chart does not touch the agreement. -/
theorem Agree.signal_other (a : d.Agree c e) (other : k ≠ c) (x : Ending) :
    Agree c d { e with board := x.signal e.board k } := by
  obtain ⟨change, signal⟩ := x.signal_eq_update
  rw [signal]
  exact a.update_other other change

/-! ## What is done to the chart -/

/-- An attempt to draw the chart begins the same way on both: the same record, the same request and the same
events, or the same failure at once. -/
theorem alike_begin (a : d.Agree i.chart e) : (d.begin i).Alike i.chart (e.begin i) := by
  have record := a.nextRecord_eq
  have track := a.track_eq
  have begun : d.begunEvent i = e.begunEvent i := by
    unfold begunEvent
    rw [record]
  cases refusal : i.refusal? with
  | none =>
    rw [begin_accepted refusal, begin_accepted refusal]
    have request := a.drawRequest_eq i (e.nextRecord i).attempt
    constructor
    · exact record
    · exact { a with
        tracks := by simp [follow, record, track]
        retired := by simp [follow]
        pending := by
          simp only [DrawQueue.accept, List.filter_append, a.pending, record, request] }
    · rw [begun]
  | some fault =>
    rw [begin_refused refusal, begin_refused refusal]
    constructor
    · exact record
    · exact { a with
        board := (a.update _).board
        tracks := by simp [get?_closeTrack, follow, record, track]
        retired := by simp [follow] }
    · rw [begun, record, a.clock]

/-- A callback for the chart is applied on both or dropped on both, and an applied one signals and emits the
same. -/
theorem alike_complete (a : d.Agree c e) (n : AttemptId) (x : Ending) :
    (d.complete c n x).Alike c (e.complete c n x) := by
  have settle := a.settle_eq n
  cases settled : (e.settle c n).1 with
  | error reason =>
    rw [complete_dropped (settle.trans settled), complete_dropped settled]
    exact ⟨rfl, a, rfl⟩
  | ok r =>
    rw [complete_applied (settle.trans settled), complete_applied settled, a.status_eq]
    constructor
    · rfl
    · exact { a with
        board := by
          split
          · exact (a.signal x).board
          · exact a.board
        tracks := by simp [get?_closeTrack, a.tracks] }
    · rw [a.clock]

/-- Forgetting the chart retires the same number on both. -/
theorem alike_forget (a : d.Agree c e) : (d.forget c).Alike c (e.forget c) := by
  unfold forget
  rw [a.tracks]
  cases e.tracks.get? c with
  | none => exact ⟨rfl, a, rfl⟩
  | some t =>
    constructor
    · rfl
    · exact { a with
        tracks := by simp
        retired := by simp }
    · rfl

/-- Removing the chart tells the same on both and leaves no last input of it. -/
theorem alike_remove (a : d.Agree c e) : (d.remove c).Alike c (e.remove c) := by
  have forgotten := alike_forget a
  have seen : d.seen.contains c = e.seen.contains c := congrArg Option.isSome a.seen
  rw [remove_eq, remove_eq]
  constructor
  · rw [forgotten.value, seen]
  · exact { forgotten.agree with seen := by simp }
  · rfl

/-- An input of the chart is withheld, skipped or drawn alike on both. -/
theorem alike_consider (a : d.Agree i.chart e) : (d.consider i).Alike i.chart (e.consider i) := by
  unfold consider
  rw [a.decision_eq, a.snapshot_eq]
  cases (e.decision? i).filter (!·.isRedraw) with
  | some decision => exact ⟨rfl, a, rfl⟩
  | none =>
    cases SkipReason.of? (e.board.snapshot i.chart) with
    | some reason => exact ⟨rfl, a, rfl⟩
    | none =>
      have begun := alike_begin a
      exact ⟨congrArg SubmitOutcome.started begun.value, begun.agree, begun.emitted⟩

/-- After an input of the chart is submitted, it is the last one on both, with the same status. -/
theorem alike_submit (a : d.Agree i.chart e) : (d.submit i).Alike i.chart (e.submit i) := by
  have considered := alike_consider a
  constructor
  · exact considered.value
  · exact { considered.agree with seen := by simp [submit, a.snapshot_eq] }
  · exact considered.emitted

/-! ## What is done to another chart -/

/-- An attempt of another chart leaves the requests of the chart in their order. Whatever it emits, also on
failing at once, is about its own chart. -/
theorem spares_begin (d : Dashboard) (other : i.chart ≠ c) : (d.begin i).Spares c d := by
  have a := Agree.refl c d
  cases refusal : i.refusal? with
  | none =>
    rw [begin_accepted refusal]
    constructor
    · exact { a with
        tracks := by simp [follow, other]
        retired := by simp [follow, other]
        pending := by simp [DrawQueue.accept, drawRequest, DrawRequest.build, other] }
    · simp [Emissions.event]
    · simp [Emissions.event, begunEvent, LifecycleEvent.chart, other]
  | some fault =>
    rw [begin_refused refusal]
    constructor
    · exact { a with
        board := (a.update_other other _).board
        tracks := by simp [get?_closeTrack, follow, other]
        retired := by simp [follow, other] }
    · intro t member
      obtain ⟨-, rfl⟩ : (d.nextRecord i).resultChanged = true ∧
          t = (d.nextRecord i).telemetry d.clock (.failure fault.message none) := by
        simpa using member
      exact other
    · simp [begunEvent, LifecycleEvent.chart, other]

/-- A callback for another chart settles a record of that other chart, so its telemetry is not about the chart.
This is where the tracks have to be consistent. -/
theorem spares_complete (consistent : d.Consistent) (other : k ≠ c) (n : AttemptId) (x : Ending) :
    (d.complete k n x).Spares c d := by
  have a := Agree.refl c d
  cases settled : (d.settle k n).1 with
  | error reason =>
    rw [complete_dropped settled]
    constructor
    · exact a
    · simp [Emissions.event]
    · simp [Emissions.event, LifecycleEvent.chart, other]
  | ok r =>
    rw [complete_applied settled]
    obtain ⟨t, known, -, active, -⟩ := settle_eq_ok.1 settled
    have chart : r.chart = k := (consistent k t known).chart_eq active
    constructor
    · exact { a with
        board := by
          split
          · exact (a.signal_other other x).board
          · rfl
        tracks := by simp [get?_closeTrack, other] }
    · intro t member
      obtain ⟨-, rfl⟩ : r.resultChanged = true ∧ t = r.telemetry d.clock x := by
        simpa using member
      exact fun same => other (chart.symm.trans same)
    · cases x <;> simp [Ending.event, LifecycleEvent.chart, other]

/-- Forgetting another chart emits nothing and retires a number of that chart only. -/
theorem spares_forget (d : Dashboard) (other : k ≠ c) : (d.forget k).Spares c d := by
  have a := Agree.refl c d
  unfold forget
  cases d.tracks.get? k with
  | none => exact ⟨a, by simp, by simp⟩
  | some t =>
    constructor
    · exact { a with
        tracks := by simp [other]
        retired := by simp [other] }
    · simp
    · simp

theorem spares_remove (d : Dashboard) (other : k ≠ c) : (d.remove k).Spares c d := by
  rw [remove_eq]
  constructor
  · exact { (spares_forget d other).agree with seen := by simp [other] }
  · simp
  · simp

/-- An input of another chart is kept as the last input of that chart only, whatever becomes of it. -/
theorem spares_submit (d : Dashboard) (other : i.chart ≠ c) : (d.submit i).Spares c d := by
  have a := Agree.refl c d
  cases d.submission i with
  | withheld decision _ _ outcome =>
    rw [outcome]
    constructor
    · exact { a with seen := by simp [other] }
    · simp [Emissions.event]
    · simp [Emissions.event, LifecycleEvent.chart, other]
  | skipped reason _ _ outcome =>
    rw [outcome]
    constructor
    · exact { a with seen := by simp [other] }
    · simp
    · simp
  | started _ _ outcome =>
    have begun := spares_begin d other
    rw [outcome]
    constructor
    · exact { begun.agree with seen := by simp [other, begin_seen] }
    · exact begun.telemetry
    · exact begun.events

end Dashboard

end Redraw
