import Redraw.Dashboard.Operation

/-!
# Outcomes of actions

One equation for every way in which an action can go, with the whole outcome on its right-hand side.
The proofs about runs cite these equations and do not open the actions. Beginning an attempt has two
ways: the engine accepts the request, or it refuses it and the attempt fails at once.
-/

namespace Redraw

/-- What an engine refuses about an input: first a viewport without area, then a missing type. -/
def RenderInput.refusal? (i : RenderInput) : Option Fault :=
  if !i.viewport.isValid then some (.invalidViewport i.viewport)
  else if i.vizType.isEmpty then some .untypedDraw
  else none

/-! ## Settling an attempt -/

namespace Track

/-- The track once its outstanding attempt has ended. -/
def close (t : Track) (phase : Phase) : Track := { t with active := none, phase }

variable {t : Track} {a : AttemptId} {r : AttemptRecord}

theorem settle_superseded (older : a ≠ t.latest) : t.settle a = (.error (.superseded t.latest), t) :=
  if_pos older

/-- What was taken out of the track is put back if it is not of the newest attempt. -/
theorem settle_ended (others : ∀ r, t.active = some r → r.attempt ≠ t.latest) :
    t.settle t.latest = (.error .alreadySettled, t) := by
  have none : t.active.filter (·.attempt = t.latest) = none := by
    rw [Option.filter_eq_none_iff]
    exact fun r active => decide_eq_false (others r active) ▸ Bool.false_ne_true
  rw [settle, if_neg fun differ => differ rfl]
  simp only [none]

/-- The record of the newest attempt is handed out, and the track holds none from then on. -/
theorem settle_taken (active : t.active = some r) (newest : r.attempt = t.latest) :
    t.settle t.latest = (.ok r, { t with active := none }) := by
  have some : t.active.filter (·.attempt = t.latest) = some r := by
    rw [active, Option.filter_some, if_pos (decide_eq_true newest)]
  rw [settle, if_neg fun differ => differ rfl]
  simp only [some]

/-- The ways in which settling can go, each with what leads to it. -/
inductive Settlement (t : Track) (a : AttemptId) : Prop where
  | superseded (older : a ≠ t.latest) (outcome : t.settle a = (.error (.superseded t.latest), t))
  | ended (newest : a = t.latest) (others : ∀ r, t.active = some r → r.attempt ≠ t.latest)
      (outcome : t.settle a = (.error .alreadySettled, t))
  | taken (r : AttemptRecord) (newest : a = t.latest) (active : t.active = some r)
      (attempt : r.attempt = t.latest) (outcome : t.settle a = (.ok r, { t with active := none }))

theorem settlement (t : Track) (a : AttemptId) : Settlement t a := by
  by_cases older : a ≠ t.latest
  · exact .superseded older (settle_superseded older)
  · obtain rfl : a = t.latest := Decidable.not_not.1 older
    by_cases outstanding : ∃ r, t.active = some r ∧ r.attempt = t.latest
    · obtain ⟨r, active, attempt⟩ := outstanding
      exact .taken r rfl active attempt (settle_taken active attempt)
    · have others : ∀ r, t.active = some r → r.attempt ≠ t.latest := fun r active attempt =>
        outstanding ⟨r, active, attempt⟩
      exact .ended rfl others (settle_ended others)

/-- An attempt can be settled exactly while it is the newest and outstanding. -/
theorem settle_eq_ok : (t.settle a).1 = .ok r ↔ t.latest = a ∧ t.active = some r ∧ r.attempt = a := by
  cases t.settlement a with
  | superseded older outcome =>
    rw [outcome]
    exact ⟨nofun, fun ⟨newest, _⟩ => absurd newest.symm older⟩
  | ended _ others outcome =>
    rw [outcome]
    exact ⟨nofun, fun ⟨newest, active, attempt⟩ => absurd (attempt.trans newest.symm) (others r active)⟩
  | taken s newest active attempt outcome =>
    rw [outcome]
    constructor
    · intro same
      obtain rfl := Except.ok.inj same
      exact ⟨newest.symm, active, attempt.trans newest.symm⟩
    · rintro ⟨-, also, -⟩
      exact congrArg Except.ok (Option.some.inj (active.symm.trans also))

/-- Where nothing is settled, the track is given back as it was. -/
theorem settle_of_error {reason : DropReason} (late : (t.settle a).1 = .error reason) :
    (t.settle a).2 = t := by
  cases t.settlement a with
  | superseded _ outcome | ended _ _ outcome => rw [outcome]
  | taken _ _ _ _ outcome =>
    rw [outcome] at late
    cases late

/-- What is settled is outstanding no longer. -/
theorem settle_of_ok (settled : (t.settle a).1 = .ok r) : (t.settle a).2 = { t with active := none } := by
  cases t.settlement a with
  | superseded _ outcome | ended _ _ outcome =>
    rw [outcome] at settled
    cases settled
  | taken _ _ _ _ outcome => rw [outcome]

end Track

namespace Dashboard

variable {d : Dashboard} {c : ChartId} {a : AttemptId}

/-- The tracks once the outstanding attempt of a chart has ended. -/
def closeTrack (d : Dashboard) (c : ChartId) (phase : Phase) : OrderedMap ChartId Track :=
  match d.tracks.get? c with
  | some t => d.tracks.insert c (t.close phase)
  | none => d.tracks

/-- What is settled about a chart is what its track says. -/
theorem settle_of_known {t : Track} (known : d.tracks.get? c = some t) :
    d.settle c a = ((t.settle a).1, { d with tracks := d.tracks.insert c (t.settle a).2 }) := by
  unfold settle
  rw [known]

theorem settle_of_unknown (unknown : d.tracks.get? c = none) : d.settle c a = (.error .unknownChart, d) := by
  unfold settle
  rw [unknown]

/-- An attempt can be settled exactly while it is the newest of its chart and outstanding. -/
theorem settle_eq_ok {r : AttemptRecord} :
    (d.settle c a).1 = .ok r ↔
      ∃ t, d.tracks.get? c = some t ∧ t.latest = a ∧ t.active = some r ∧ r.attempt = a := by
  cases known : d.tracks.get? c with
  | none =>
    rw [settle_of_unknown known]
    exact ⟨nofun, nofun⟩
  | some t =>
    rw [settle_of_known known, Track.settle_eq_ok]
    simp only [Option.some.injEq, exists_eq_left']

/-- Where nothing is settled, the dashboard stays as it is. -/
theorem settle_of_error {reason : DropReason} (late : (d.settle c a).1 = .error reason) :
    (d.settle c a).2 = d := by
  cases known : d.tracks.get? c with
  | none => rw [settle_of_unknown known]
  | some t =>
    rw [settle_of_known known] at late ⊢
    have kept : d.tracks.insert c (t.settle a).2 = d.tracks := by
      rw [Track.settle_of_error late]
      exact OrderedMap.insert_found known
    rw [kept]

/-- Settling an attempt and setting the phase of its chart closes the track of the chart. -/
theorem settle_of_ok {r : AttemptRecord} (settled : (d.settle c a).1 = .ok r) :
    ∃ tracks, (d.settle c a).2 = { d with tracks } ∧
      ∀ phase, setPhase { d with tracks } c phase = d.closeTrack c phase := by
  obtain ⟨t, known, -⟩ := settle_eq_ok.1 settled
  rw [settle_of_known known] at settled ⊢
  rw [Track.settle_of_ok settled]
  refine ⟨_, rfl, fun phase => ?_⟩
  simp only [setPhase, closeTrack, known, OrderedMap.get?_insert, if_true, OrderedMap.insert_insert]
  rfl

/-! ## Completing an attempt -/

/-- A callback that is dropped changes nothing, for what was taken is put back. -/
theorem complete_dropped {reason : DropReason} (late : (d.settle c a).1 = .error reason) (e : Ending) :
    d.complete c a e =
      { value := .dropped reason
        dashboard := d
        emitted := .event (.callbackDropped c a reason) } := by
  have settled : d.settle c a = (.error reason, d) := Prod.ext late (settle_of_error late)
  simp only [complete, settled]

/-- A callback that is applied ends the attempt and signals the board as the ending says. -/
theorem complete_applied {r : AttemptRecord} (settled : (d.settle c a).1 = .ok r) (e : Ending) :
    d.complete c a e =
      { value := .applied (e.signals (d.board.status? c)) r.resultChanged
        dashboard :=
          { d with
            board := if e.signals (d.board.status? c) then e.signal d.board c else d.board
            tracks := d.closeTrack c e.phase }
        emitted :=
          { telemetry := if r.resultChanged then [r.telemetry d.clock e] else []
            events := [e.event c a (e.signals (d.board.status? c))] } } := by
  obtain ⟨tracks, next, closed⟩ := settle_of_ok settled
  have taken : d.settle c a = (.ok r, { d with tracks }) := Prod.ext settled next
  simp only [complete, taken, closed]

/-- Closing the track of a chart leaves the other tracks alone. -/
theorem get?_closeTrack (d : Dashboard) (c : ChartId) (phase : Phase) (k : ChartId) :
    (d.closeTrack c phase).get? k =
      if c = k then (d.tracks.get? c).map (·.close phase) else d.tracks.get? k := by
  unfold closeTrack
  cases known : d.tracks.get? c with
  | none =>
    by_cases same : c = k
    · subst same
      simp [known]
    · simp [same]
  | some t => simp

/-! ## Beginning an attempt -/

/-- Nothing that is refused about a request comes from the registry or from the class names. -/
theorem drawRequest_refusal? (d : Dashboard) (i : RenderInput) (a : AttemptId) :
    (d.drawRequest i a).refusal? = i.refusal? := rfl

/-- The record of the attempt that an input would begin now. -/
def nextRecord (d : Dashboard) (i : RenderInput) : AttemptRecord :=
  (d.track i.chart).nextRecord i d.clock.now

/-- The track of a chart once an attempt to draw the input has begun, and has failed where the engine
refuses. -/
def begunTrack (d : Dashboard) (i : RenderInput) : Track :=
  let t := (d.track i.chart).begin (d.nextRecord i) i.result
  if i.refusal?.isSome then t.close .errored else t

/-- An attempt that has begun is outstanding unless the engine refuses it. -/
theorem active_begunTrack (d : Dashboard) (i : RenderInput) :
    (d.begunTrack i).active = none ↔ i.refusal?.isSome = true := by
  unfold begunTrack
  by_cases refused : i.refusal?.isSome = true
  · simp [refused, Track.close]
  · simp [refused, Track.begin]

/-- What observers are told when an attempt begins. -/
def begunEvent (d : Dashboard) (i : RenderInput) : LifecycleEvent :=
  .attemptBegun i.chart (d.nextRecord i).attempt (d.nextRecord i).resultChanged

/-- What the engine accepts is kept by it, and observers are told of the beginning only. -/
theorem begin_accepted {d : Dashboard} {i : RenderInput} (accepted : i.refusal? = none) :
    d.begin i =
      { value := d.nextRecord i
        dashboard :=
          { d.follow i (d.nextRecord i) with
            queue := d.queue.accept (d.drawRequest i (d.nextRecord i).attempt) }
        emitted := .event (d.begunEvent i) } := by
  unfold Dashboard.begin
  simp only [drawRequest_refusal?, accepted]
  rfl

/-- An attempt that has just begun can be settled. -/
theorem settle_follow (d : Dashboard) (i : RenderInput) :
    ((d.follow i (d.nextRecord i)).settle i.chart (d.nextRecord i).attempt).1
      = .ok (d.nextRecord i) := by
  rw [settle_eq_ok]
  exact ⟨(d.track i.chart).begin (d.nextRecord i) i.result, by simp [follow], rfl, rfl, rfl⟩

/-- What the engine refuses has begun and has failed: its track is closed, the board has the error, and observers
are told of both. -/
theorem begin_refused {d : Dashboard} {i : RenderInput} {fault : Fault}
    (refused : i.refusal? = some fault) :
    d.begin i =
      { value := d.nextRecord i
        dashboard :=
          { d.follow i (d.nextRecord i) with
            board := d.board.signalFailure i.chart fault.message none
            tracks := (d.follow i (d.nextRecord i)).closeTrack i.chart .errored }
        emitted :=
          { telemetry :=
              if (d.nextRecord i).resultChanged
              then [(d.nextRecord i).telemetry d.clock (.failure fault.message none)] else []
            events := [d.begunEvent i, .failed i.chart (d.nextRecord i).attempt] } } := by
  have failed := complete_applied (settle_follow d i) (.failure fault.message none)
  unfold Dashboard.begin
  simp only [drawRequest_refusal?, refused]
  rw [show (d.track i.chart).nextRecord i d.clock.now = d.nextRecord i from rfl,
    show (d.nextRecord i).chart = i.chart from rfl, failed]
  rfl

theorem begin_value (d : Dashboard) (i : RenderInput) : (d.begin i).value = d.nextRecord i := by
  cases refusal : i.refusal? with
  | none => rw [begin_accepted refusal]
  | some fault => rw [begin_refused refusal]

/-- Beginning an attempt changes the track of its own chart only. -/
theorem get?_begin_tracks (d : Dashboard) (i : RenderInput) (c : ChartId) :
    (d.begin i).dashboard.tracks.get? c =
      if i.chart = c then some (d.begunTrack i) else d.tracks.get? c := by
  cases refusal : i.refusal? with
  | none =>
    rw [begin_accepted refusal]
    simp [follow, begunTrack, refusal]
  | some fault =>
    rw [begin_refused refusal]
    simp only [get?_closeTrack, follow, OrderedMap.get?_insert, if_true, Option.map_some]
    by_cases same : i.chart = c
    · simp [same, begunTrack, refusal]
    · simp [same]

/-- A chart whose attempt has begun has no retired number. -/
theorem get?_begin_retired (d : Dashboard) (i : RenderInput) (c : ChartId) :
    (d.begin i).dashboard.retired.get? c = if i.chart = c then none else d.retired.get? c := by
  cases refusal : i.refusal? with
  | none =>
    rw [begin_accepted refusal]
    simp [follow]
  | some fault =>
    rw [begin_refused refusal]
    simp [follow]

/-! ## What actions leave alone -/

/-- Beginning an attempt changes the board, the requests of the engine and what is kept about attempts. -/
theorem begin_frame (d : Dashboard) (i : RenderInput) :
    ∃ board queue tracks retired,
      (d.begin i).dashboard = { d with board, queue, tracks, retired } := by
  cases refusal : i.refusal? with
  | none =>
    rw [begin_accepted refusal]
    exact ⟨d.board, _, _, _, rfl⟩
  | some fault =>
    rw [begin_refused refusal]
    exact ⟨_, d.queue, _, _, rfl⟩

/-- Completing an attempt changes the board and the track of the chart, or nothing. -/
theorem complete_frame (d : Dashboard) (c : ChartId) (a : AttemptId) (e : Ending) :
    ∃ board tracks, (d.complete c a e).dashboard = { d with board, tracks } := by
  cases settled : (d.settle c a).1 with
  | error reason =>
    rw [complete_dropped settled]
    exact ⟨d.board, d.tracks, rfl⟩
  | ok r =>
    rw [complete_applied settled]
    exact ⟨_, _, rfl⟩

/-- The attempts of a chart have nothing to do with the inputs that were submitted for it. -/
theorem begin_seen (d : Dashboard) (i : RenderInput) : (d.begin i).dashboard.seen = d.seen := by
  obtain ⟨_, _, _, _, frame⟩ := d.begin_frame i
  rw [frame]

theorem complete_seen (d : Dashboard) (c : ChartId) (a : AttemptId) (e : Ending) :
    (d.complete c a e).dashboard.seen = d.seen := by
  obtain ⟨_, _, frame⟩ := d.complete_frame c a e
  rw [frame]

theorem forget_seen (d : Dashboard) (c : ChartId) : (d.forget c).dashboard.seen = d.seen := by
  unfold forget
  cases d.tracks.get? c <;> rfl

/-- Forgetting a chart emits nothing, and changes its track and its retired number or nothing. -/
theorem forget_outcome (d : Dashboard) (c : ChartId) :
    ∃ tracks retired, d.forget c =
      { value := (d.tracks.get? c).isSome, dashboard := { d with tracks, retired } } := by
  unfold forget
  cases d.tracks.get? c with
  | none => exact ⟨d.tracks, d.retired, rfl⟩
  | some t => exact ⟨_, _, rfl⟩

/-! ## Removing a chart, and what is refused -/

/-- Removing a chart is forgetting it, and its last input with it. -/
theorem remove_eq (d : Dashboard) (c : ChartId) :
    d.remove c =
      { value := (d.forget c).value || d.seen.contains c
        dashboard := { (d.forget c).dashboard with seen := d.seen.erase c } } := by
  unfold remove forget
  cases d.tracks.get? c <;> rfl

/-- Removing a chart emits nothing, and changes what is kept about its inputs and attempts only. -/
theorem remove_outcome (d : Dashboard) (c : ChartId) :
    ∃ tracks retired, d.remove c =
      { value := (d.tracks.get? c).isSome || d.seen.contains c
        dashboard := { d with tracks, retired, seen := d.seen.erase c } } := by
  obtain ⟨tracks, retired, outcome⟩ := d.forget_outcome c
  refine ⟨tracks, retired, ?_⟩
  rw [remove_eq, outcome]

/-- Adding an observer changes the observers or nothing. -/
theorem addObserver_outcome (d : Dashboard) (id : String) :
    ∃ answer observers, (answer = .done ∨ ∃ fault, answer = .refusal fault) ∧
      d.unlessRefused (d.addObserver id) =
        { value := answer, dashboard := { d with observers } } := by
  unfold addObserver
  split
  · exact ⟨_, d.observers, .inr ⟨_, rfl⟩, rfl⟩
  · split
    · exact ⟨_, d.observers, .inr ⟨_, rfl⟩, rfl⟩
    · exact ⟨_, _, .inl rfl, rfl⟩

/-- Adding a strategy changes the registry or nothing. -/
theorem addStrategy_outcome (d : Dashboard) (v : VizType) (s : Strategy) :
    ∃ answer registry, (answer = .done ∨ ∃ fault, answer = .refusal fault) ∧
      d.unlessRefused ((d.registry.register v s).map fun r => { d with registry := r }) =
        { value := answer, dashboard := { d with registry } } := by
  cases d.registry.register v s with
  | ok registry => exact ⟨_, registry, .inl rfl, rfl⟩
  | error fault => exact ⟨_, d.registry, .inr ⟨fault, rfl⟩, rfl⟩

/-- An operation that is either refused or done is refused exactly where something is wrong, and then it changes
nothing. -/
theorem refused_exactly {d e : Dashboard} {op : Operation} {Wrong : Prop}
    (refused : Wrong → ∃ fault, d.perform op = { value := .refusal fault, dashboard := d })
    (done : ¬ Wrong → d.perform op = { value := .done, dashboard := e }) :
    ((∃ fault, (d.step op).2.answer = .refusal fault) ↔ Wrong) ∧ (Wrong → (d.step op).1 = d) ∧
      (¬ Wrong → (d.step op).2.answer = .done ∧ (d.step op).1 = e) := by
  have answer : (d.step op).2.answer = (d.perform op).value := rfl
  have after : (d.step op).1 = (d.perform op).dashboard := rfl
  rw [answer, after]
  by_cases wrong : Wrong
  · obtain ⟨fault, outcome⟩ := refused wrong
    rw [outcome]
    exact ⟨⟨fun _ => wrong, fun _ => ⟨fault, rfl⟩⟩, fun _ => rfl, fun right => absurd wrong right⟩
  · rw [done wrong]
    refine ⟨⟨?_, fun holds => absurd holds wrong⟩, fun holds => absurd holds wrong, fun _ => ⟨rfl, rfl⟩⟩
    rintro ⟨fault, refusal⟩
    cases refusal

/-! ## What observers receive -/

/-- What observers receive of some of the events is picked by the events. -/
theorem filter_deliveries (observers : List String) (events : List LifecycleEvent)
    (p : LifecycleEvent → Bool) :
    (deliveries observers events).filter (fun x => p x.2) = deliveries observers (events.filter p) := by
  unfold deliveries
  induction events with
  | nil => rfl
  | cons e rest ih => cases picked : p e <;> simp [picked, ih]

/-! ## Submitting an input -/

/-- The ways in which a submitted input can go, each with what leads to it. -/
inductive Submission (d : Dashboard) (i : RenderInput) : Prop where
  | withheld (decision : RedrawDecision) (decided : d.decision? i = some decision)
      (held : decision.isRedraw = false)
      (outcome : d.submit i =
        { value := .withheld decision
          dashboard := { d with seen := d.seen.insert i.chart ⟨i, d.board.snapshot i.chart⟩ }
          emitted := .event (.redrawWithheld i.chart decision) })
  | skipped (reason : SkipReason)
      (passed : ∀ decision, d.decision? i = some decision → decision.isRedraw = true)
      (blocked : SkipReason.of? (d.board.snapshot i.chart) = some reason)
      (outcome : d.submit i =
        { value := .skipped reason
          dashboard := { d with seen := d.seen.insert i.chart ⟨i, d.board.snapshot i.chart⟩ } })
  | started (passed : ∀ decision, d.decision? i = some decision → decision.isRedraw = true)
      (clear : SkipReason.of? (d.board.snapshot i.chart) = none)
      (outcome : d.submit i =
        { value := .started (d.begin i).value
          dashboard :=
            { (d.begin i).dashboard with
              seen := (d.begin i).dashboard.seen.insert i.chart ⟨i, d.board.snapshot i.chart⟩ }
          emitted := (d.begin i).emitted })

theorem submission (d : Dashboard) (i : RenderInput) : Submission d i := by
  cases filtered : (d.decision? i).filter (!·.isRedraw) with
  | some decision =>
    obtain ⟨decided, held⟩ := Option.filter_eq_some_iff.1 filtered
    refine .withheld decision decided (by simpa using held) ?_
    simp only [submit, consider, filtered]
  | none =>
    have passed : ∀ decision, d.decision? i = some decision → decision.isRedraw = true := by
      intro decision decided
      rw [decided] at filtered
      simpa using filtered
    cases obstacle : SkipReason.of? (d.board.snapshot i.chart) with
    | some reason =>
      refine .skipped reason passed obstacle ?_
      simp only [submit, consider, filtered, obstacle]
    | none =>
      refine .started passed obstacle ?_
      simp only [submit, consider, filtered, obstacle]

/-- Submitting an input changes nothing that charts share but the requests of the engine. -/
theorem submit_frame (d : Dashboard) (i : RenderInput) :
    ∃ board queue tracks retired seen,
      (d.submit i).dashboard = { d with board, queue, tracks, retired, seen } := by
  cases d.submission i with
  | withheld _ _ _ outcome | skipped _ _ _ outcome =>
    rw [outcome]
    exact ⟨d.board, d.queue, d.tracks, d.retired, _, rfl⟩
  | started _ _ outcome =>
    obtain ⟨board, queue, tracks, retired, frame⟩ := d.begin_frame i
    rw [outcome, frame]
    exact ⟨board, queue, tracks, retired, _, rfl⟩

end Dashboard

/-! ## What is set up for all charts -/

/-- The operation adds or removes a strategy. -/
def Operation.isEnrollment : Operation → Bool
  | addStrategy _ _ | removeStrategy _ => true
  | _ => false

/-- The operation adds, removes or looks for an observer. -/
def Operation.isRoster : Operation → Bool
  | addObserver _ | removeObserver _ | findObserver _ => true
  | _ => false

/-- What an operation on one dashboard leaves as it was on the next one. -/
structure Operation.Keeps (op : Operation) (d e : Dashboard) : Prop where
  sink : e.sink = d.sink
  registry : op.isEnrollment = false → e.registry = d.registry
  observers : op.isRoster = false → e.observers = d.observers

theorem Operation.Keeps.of_frame {op : Operation} {d e : Dashboard} {clock : Clock} {hooks : Hooks}
    {board : StatusBoard} {queue : DrawQueue} {tracks : OrderedMap ChartId Track}
    {retired : OrderedMap ChartId AttemptId} {seen : OrderedMap ChartId SeenInput}
    (frame : e = { d with clock, hooks, board, queue, tracks, retired, seen }) : op.Keeps d e := by
  subst frame
  exact ⟨rfl, fun _ => rfl, fun _ => rfl⟩

namespace Dashboard

/-- The sink stays. The strategies change only by the operations for them, and so do the observers. -/
theorem step_keeps (d : Dashboard) (op : Operation) : op.Keeps d (d.step op).1 := by
  cases op with
  | submit i =>
    obtain ⟨_, _, _, _, _, frame⟩ := d.submit_frame i
    exact .of_frame frame
  | begin i =>
    obtain ⟨_, _, _, _, frame⟩ := d.begin_frame i
    exact .of_frame frame
  | complete c a e =>
    obtain ⟨_, _, frame⟩ := d.complete_frame c a e
    exact .of_frame frame
  | completeRecord r e =>
    obtain ⟨_, _, frame⟩ := d.complete_frame r.chart r.attempt e
    exact .of_frame frame
  | remove c =>
    obtain ⟨_, _, outcome⟩ := d.remove_outcome c
    exact .of_frame (congrArg (·.dashboard) outcome)
  | forget c =>
    obtain ⟨_, _, outcome⟩ := d.forget_outcome c
    exact .of_frame (congrArg (·.dashboard) outcome)
  | addObserver id =>
    obtain ⟨_, _, -, outcome⟩ := d.addObserver_outcome id
    exact ⟨congrArg (·.dashboard.sink) outcome, fun _ => congrArg (·.dashboard.registry) outcome,
      nofun⟩
  | addStrategy v s =>
    obtain ⟨_, _, -, outcome⟩ := d.addStrategy_outcome v s
    exact ⟨congrArg (·.dashboard.sink) outcome, nofun,
      fun _ => congrArg (·.dashboard.observers) outcome⟩
  | removeObserver _ => exact ⟨rfl, fun _ => rfl, nofun⟩
  | removeStrategy _ => exact ⟨rfl, nofun, fun _ => rfl⟩
  | _ => exact .of_frame rfl

/-- A dashboard keeps its telemetry sink. -/
theorem step_sink (d : Dashboard) (op : Operation) : (d.step op).1.sink = d.sink :=
  (d.step_keeps op).sink

end Dashboard

end Redraw
