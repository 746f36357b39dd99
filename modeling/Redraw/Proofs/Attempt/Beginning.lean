import Redraw.Proofs.Attempt.Verdict
import Redraw.Proofs.Draw.Acceptance
import Redraw.Proofs.Status.Signals

/-!
# How attempts begin

An attempt that begins leaves the dashboard in one of two states. Either the engine has its request, and the
attempt is outstanding. Or the engine refuses it, and the attempt has failed through the same steps as one that
fails later, although it was half begun by then. `Moment.Starts` and `Moment.FailsAtOnce` say everything that
comes of the two. In both the attempt is the newest of its chart, so that no callback for an older one can be
applied any more.
-/

namespace Redraw

namespace Moment

/-- What a moment does that begins an attempt to draw an input is what beginning does, whether or not the
input was submitted. -/
structure Enacts (m : Moment) (i : RenderInput) : Prop where
  queue : m.after.queue = (m.before.begin i).dashboard.queue
  tracks : m.after.tracks = (m.before.begin i).dashboard.tracks
  board : m.after.board = (m.before.begin i).dashboard.board
  handed : m.handed = (m.before.begin i).emitted.telemetry
  events : m.reply.events = (m.before.begin i).emitted.events

/-- The attempt of a record is the newest of its chart, and the query result of its input is kept. -/
structure Advances (m : Moment) (i : RenderInput) (r : AttemptRecord) : Prop where
  chart : r.chart = i.chart
  latest : m.after.latest? i.chart = some r.attempt
  result : (m.after.track i.chart).lastResult = i.result

/-- The attempt of a record is outstanding, and the engine has its request. -/
structure Starts (m : Moment) (i : RenderInput) (r : AttemptRecord) : Prop where
  request : ∃ q : DrawRequest, q.Serves (i, r) ∧ m.after.queue.pending = m.before.queue.pending ++ [q]
  started : m.after.queue.started = m.before.queue.started + 1
  phase : m.after.phase i.chart = .attempting r.attempt
  active : m.after.active? i.chart = some r
  board : m.after.board = m.before.board
  handed : m.handed = []
  events : m.reply.events = [.attemptBegun i.chart r.attempt r.resultChanged]

/-- The attempt of a record has failed, as the engine refuses its input for a fault. -/
structure FailsAtOnce (m : Moment) (i : RenderInput) (r : AttemptRecord) (fault : Fault) : Prop where
  queue : m.after.queue = m.before.queue
  phase : m.after.phase i.chart = .errored
  active : m.after.active? i.chart = none
  entry : m.after.board.entry i.chart =
    { m.before.board.entry i.chart with
      snapshot :=
        { m.before.board.snapshot i.chart with status := some .error, alert := some fault.message }
      stack := none
      failed := (m.before.board.entry i.chart).failed + 1 }
  others : ∀ c, i.chart ≠ c → m.after.board.get? c = m.before.board.get? c
  handed : m.handed =
    if r.resultChanged then [r.telemetry m.before.clock (.failure fault.message none)] else []
  events : m.reply.events =
    [.attemptBegun i.chart r.attempt r.resultChanged, .failed i.chart r.attempt]

end Moment

/-- Every callback for the attempt is dropped for the reason. -/
def Dashboard.Drops (d : Dashboard) (c : ChartId) (a : AttemptId) (reason : DropReason) : Prop :=
  ∀ op : Operation, op.callback? = some (c, a) → (d.step op).2.answer = .callback (.dropped reason)

variable {c : ChartId} {i : RenderInput} {r : AttemptRecord} {h : History} {m : Moment} {d : Dashboard}

/-! ## What the engine refuses -/

theorem RenderInput.refusal?_of_area (empty : i.viewport.width = 0 ∨ i.viewport.height = 0) :
    i.refusal? = some (.invalidViewport i.viewport) := by
  have invalid : i.viewport.isValid = false := by
    rcases empty with none | none <;> simp [Viewport.isValid, none]
  unfold refusal?
  rw [invalid]
  rfl

theorem RenderInput.refusal?_of_type (width : 0 < i.viewport.width) (height : 0 < i.viewport.height)
    (untyped : i.vizType.tag = "") : i.refusal? = some .untypedDraw := by
  have valid : i.viewport.isValid = true := Viewport.isValid_iff.2 ⟨width, height⟩
  have missing : i.vizType.isEmpty = true := VizType.isEmpty_iff.2 untyped
  unfold refusal?
  rw [valid, missing]
  rfl

theorem RenderInput.exists_refusal (undrawable : ¬ i.Drawable) : ∃ fault, i.refusal? = some fault := by
  apply Option.ne_none_iff_exists'.1
  intro accepted
  exact undrawable (RenderInput.refusal?_eq_none.1 accepted)

/-! ## What comes of a beginning -/

namespace Dashboard

variable {t : Track}

/-- The newest attempt of a chart is the one that has just begun. -/
theorem latest_eq_attempt (d : Dashboard) (i : RenderInput) :
    (d.begunTrack i).latest = (d.nextRecord i).attempt := d.latest_begunTrack i

/-- What the engine refuses is not outstanding. -/
theorem active_of_undrawable (d : Dashboard) (undrawable : ¬ i.Drawable) :
    (d.begunTrack i).active = none := by
  obtain ⟨fault, refused⟩ := RenderInput.exists_refusal undrawable
  rw [active_begunTrack, refused]
  rfl

theorem phase_of_known (known : d.tracks.get? c = some t) : d.phase c = t.phase := by
  unfold phase
  rw [known]
  rfl

theorem active?_of_known (known : d.tracks.get? c = some t) : d.active? c = t.active := by
  unfold active?
  rw [known]
  rfl

theorem latest?_of_known (known : d.tracks.get? c = some t) : d.latest? c = some t.latest := by
  unfold latest?
  rw [known]
  rfl

end Dashboard

namespace Moment

/-- Submitting an input that begins an attempt changes what beginning it changes, and the last input of the
chart. -/
theorem enacts (input : m.op.input? = some i) (begun : m.reply.answer.begun? = some r) : m.Enacts i := by
  obtain ⟨d, op⟩ := m
  rcases Operation.eq_of_input input with rfl | rfl
  · have answer : (⟨d, .submit i⟩ : Moment).reply.answer = .submitted (d.submit i).value := rfl
    have handed : (⟨d, .submit i⟩ : Moment).handed = (d.submit i).emitted.telemetry := rfl
    have events : (⟨d, .submit i⟩ : Moment).reply.events = (d.submit i).emitted.events := rfl
    have after : (⟨d, .submit i⟩ : Moment).after = (d.submit i).dashboard := rfl
    rw [answer] at begun
    cases d.submission i with
    | withheld _ _ _ outcome | skipped _ _ _ outcome =>
      rw [outcome] at begun
      exact nomatch begun
    | started _ _ outcome =>
      rw [outcome] at handed events after
      exact ⟨by rw [after], by rw [after], by rw [after], handed, events⟩
  · exact ⟨rfl, rfl, rfl, rfl, rfl⟩

variable (e : m.Enacts i)

include e

theorem Enacts.track : m.after.tracks.get? i.chart = some (m.before.begunTrack i) := by
  rw [e.tracks, Dashboard.get?_begin_tracks, if_pos rfl]

theorem Enacts.advances : m.Advances i (m.before.nextRecord i) := by
  constructor
  · rfl
  · rw [Dashboard.latest?_of_known e.track, Dashboard.latest_begunTrack]
    rfl
  · rw [Dashboard.track_of_known e.track]
    exact m.before.lastResult_begunTrack i

theorem Enacts.starts (drawable : i.Drawable) : m.Starts i (m.before.nextRecord i) := by
  have accepted : i.refusal? = none := RenderInput.refusal?_eq_none.2 drawable
  have track : m.after.tracks.get? i.chart =
      some ((m.before.track i.chart).begin (m.before.nextRecord i) i.result) := by
    rw [e.track, Dashboard.begunTrack, accepted]
    rfl
  have outcome := Dashboard.begin_accepted (d := m.before) accepted
  have queue := e.queue
  have board := e.board
  have handed := e.handed
  have events := e.events
  rw [outcome] at queue board handed events
  constructor
  case request =>
    refine ⟨_, m.before.drawRequest_serves m.before drawable, ?_⟩
    rw [queue]
    rfl
  case started => rw [queue]; rfl
  case phase => exact Dashboard.phase_of_known track
  case active => exact Dashboard.active?_of_known track
  case board => exact board
  case handed => exact handed
  case events => exact events

theorem Enacts.failsAtOnce {fault : Fault} (refused : i.refusal? = some fault) :
    m.FailsAtOnce i (m.before.nextRecord i) fault := by
  have track : m.after.tracks.get? i.chart =
      some (((m.before.track i.chart).begin (m.before.nextRecord i) i.result).close .errored) := by
    rw [e.track, Dashboard.begunTrack, refused]
    rfl
  have outcome := Dashboard.begin_refused (d := m.before) refused
  have queue := e.queue
  have board := e.board
  have handed := e.handed
  have events := e.events
  rw [outcome] at queue board handed events
  constructor
  case queue => exact queue
  case phase => exact Dashboard.phase_of_known track
  case active => exact Dashboard.active?_of_known track
  case entry =>
    rw [board]
    exact entry_signalFailure m.before.board i.chart fault.message none
  case others =>
    intro c other
    rw [board]
    exact get?_signal_other other (.failure fault.message none)
  case handed => exact handed
  case events => exact events

end Moment

/-! ## Callbacks that are dropped -/

theorem AttemptId.next_ne (a : AttemptId) : a ≠ a.next := by
  intro same
  have raw : a.raw = a.raw + 1 := congrArg AttemptId.raw same
  simp at raw

namespace Dashboard

variable {a : AttemptId} {t : Track}

theorem drops_of_settle {reason : DropReason} (late : (d.settle c a).1 = .error reason) :
    d.Drops c a reason := by
  intro op called
  obtain ⟨e, answer⟩ := answer_of_callback d called
  rw [answer, complete_dropped late]

/-- A callback for an attempt that is not the newest one is dropped. -/
theorem drops_superseded (known : d.tracks.get? c = some t) (older : a ≠ t.latest) :
    d.Drops c a (.superseded t.latest) := by
  apply drops_of_settle
  rw [settle_of_known known, Track.settle_superseded older]

/-- A callback for the newest attempt is dropped once the attempt is settled. -/
theorem drops_settled (known : d.tracks.get? c = some t) (settled : t.active = none) :
    d.Drops c t.latest .alreadySettled := by
  apply drops_of_settle
  rw [settle_of_known known, Track.settle_ended (by simp [settled])]

/-- A settled track stays as it is until an attempt begins or the chart goes away. -/
theorem track_of_quiet {rest : List Operation}
    (quiet : ∀ m ∈ d.history rest, m.begun? c = none ∧ ¬ m.Removes c)
    (known : d.tracks.get? c = some t) (settled : t.active = none) :
    (d.after rest).tracks.get? c = some t := by
  induction rest generalizing d with
  | nil => exact known
  | cons op rest ih =>
    obtain ⟨idle, stays⟩ := quiet ⟨d, op⟩ List.mem_cons_self
    apply ih fun m member => quiet m (List.mem_cons_of_mem _ member)
    show (⟨d, op⟩ : Moment).after.tracks.get? c = some t
    cases (⟨d, op⟩ : Moment).move c with
    | begins _ _ _ begun _ _ _ _ =>
      rw [begun] at idle
      exact nomatch idle
    | settles s r _ before active _ _ _ _ _ =>
      obtain rfl := Option.some.inj (known.symm.trans before)
      rw [settled] at active
      exact nomatch active
    | forgets _ _ _ _ leaves _ _ => exact absurd leaves stays
    | rests _ _ _ track _ => exact track.trans known

/-- No attempt of a halted chart begins by submitting inputs until the host closes its alert. -/
theorem Halted.idle {rest : List Operation} (halted : d.Halted c)
    (kept : ∀ op ∈ rest, op.Submitted c ∧ op ≠ .setAlert c none) :
    ∀ m ∈ d.history rest, m.begun? c = none := by
  induction rest generalizing d with
  | nil => exact fun m member => absurd member List.not_mem_nil
  | cons op rest ih =>
    obtain ⟨submitted, uncleared⟩ := kept op List.mem_cons_self
    intro m member
    rcases List.mem_cons.1 member with rfl | later
    · exact halted.begun_eq_none submitted
    · have still : (d.step op).1.Halted c := halted.step (m := ⟨d, op⟩) submitted uncleared
      exact ih still (fun o member => kept o (List.mem_cons_of_mem _ member)) m later

end Dashboard

namespace Moment.Enacts

variable (e : m.Enacts i)

include e

/-- The attempt that was outstanding before is not the newest any more. -/
theorem superseded (consistent : m.before.Consistent) {old : AttemptRecord}
    (outstanding : m.before.active? i.chart = some old) :
    m.after.Drops i.chart old.attempt (.superseded (m.before.nextRecord i).attempt) := by
  obtain ⟨t, known, active⟩ := Option.bind_eq_some_iff.1 outstanding
  have number : old.attempt = t.latest := ((consistent i.chart t known).attempt_eq active).1
  rw [← Dashboard.latest_eq_attempt]
  apply Dashboard.drops_superseded e.track
  rw [number, Dashboard.latest_begunTrack, Dashboard.track_of_known known]
  exact t.latest.next_ne

/-- An attempt that the engine refuses is settled, and stays so until another one begins or the chart goes
away. -/
theorem settled (undrawable : ¬ i.Drawable) {rest : List Operation}
    (quiet : ∀ n ∈ m.after.history rest, n.begun? i.chart = none ∧ ¬ n.Removes i.chart) :
    (m.after.after rest).Drops i.chart (m.before.nextRecord i).attempt .alreadySettled := by
  have ended := m.before.active_of_undrawable undrawable
  rw [← Dashboard.latest_eq_attempt]
  exact Dashboard.drops_settled (Dashboard.track_of_quiet quiet e.track ended) ended

/-- An attempt that the engine refuses leaves its chart halted. -/
theorem halted (undrawable : ¬ i.Drawable) : m.after.Halted i.chart := by
  obtain ⟨fault, refused⟩ := RenderInput.exists_refusal undrawable
  constructor
  · show (m.after.board.entry i.chart).snapshot.alert ≠ none
    rw [(e.failsAtOnce refused).entry]
    exact Option.some_ne_none fault.message
  · intro t known
    obtain rfl := Option.some.inj (e.track.symm.trans known)
    exact m.before.active_of_undrawable undrawable

end Moment.Enacts

/-! ## Runs -/

variable {registry : Registry} {namer : ClassNamer} {clock : Clock} {sink : TelemetrySink}
  {hooks : Hooks} {a : AttemptId}

/-- A callback for an attempt is dropped from the moment on at which a newer one has begun or the attempt has
reached its end. -/
theorem exists_drops {ops : List Operation}
    (few : (begunFor c ((Dashboard.new registry namer clock sink hooks).history ops)).length
      < UInt64.size)
    (begun : a ∈ begunFor c ((Dashboard.new registry namer clock sink hooks).history ops))
    (past : NewerBegun c a ((Dashboard.new registry namer clock sink hooks).history ops) ∨
      Settled c a ((Dashboard.new registry namer clock sink hooks).history ops)) :
    ∃ reason, ((Dashboard.new registry namer clock sink hooks).after ops).Drops c a reason := by
  cases settled : (((Dashboard.new registry namer clock sink hooks).after ops).settle c a).1 with
  | error reason => exact ⟨reason, Dashboard.drops_of_settle settled⟩
  | ok r =>
    have judged := verdict_of_complete (Course.run ops few) (Numbering.run ops) few
      (Dashboard.consistent_after ops) begun .success
    rw [Dashboard.complete_applied settled] at judged
    obtain ⟨-, newest, unsettled⟩ := judged.applied_iff.1 rfl
    rcases past with newer | ended
    · exact absurd newer newest
    · exact absurd ended unsettled

/-- The attempt that is outstanding is one of those that have begun. -/
theorem mem_begunFor_of_active (n : Numbering c h d) (consistent : d.Consistent) {old : AttemptRecord}
    (outstanding : d.active? c = some old) : old.attempt ∈ begunFor c h := by
  obtain ⟨t, known, active⟩ := Option.bind_eq_some_iff.1 outstanding
  rw [((consistent c t known).attempt_eq active).1]
  exact n.latest_mem known

/-- Once an attempt has begun, callbacks for the one that was outstanding are dropped for good. So are those for
the attempt itself if the engine has refused it. -/
theorem exists_drops_later {ops rest : List Operation} {op : Operation} (input : op.input? = some i)
    (begun : (((Dashboard.new registry namer clock sink hooks).after ops).step op).2.answer.begun? = some r)
    (few : (begunFor i.chart ((Dashboard.new registry namer clock sink hooks).history
      (ops ++ op :: rest))).length < UInt64.size) :
    let d := (Dashboard.new registry namer clock sink hooks).after ops
    let later := (Dashboard.new registry namer clock sink hooks).after (ops ++ op :: rest)
    (∀ old, d.active? i.chart = some old → ∃ reason, later.Drops i.chart old.attempt reason) ∧
    (¬ i.Drawable → ∃ reason, later.Drops i.chart r.attempt reason) := by
  intro d later
  let m : Moment := ⟨d, op⟩
  obtain rfl : r = d.nextRecord i := eq_nextRecord_of_begun (m := m) input begun
  have now : m.begun? i.chart = some (d.nextRecord i).attempt := by
    rw [Moment.begun?_of_answer (m := m) begun]
    exact if_pos rfl
  have story : (Dashboard.new registry namer clock sink hooks).history (ops ++ op :: rest) =
      (Dashboard.new registry namer clock sink hooks).history ops ++ m :: m.after.history rest := by
    rw [Dashboard.history_append]
    rfl
  have ids : begunFor i.chart ((Dashboard.new registry namer clock sink hooks).history (ops ++ op :: rest)) =
      begunFor i.chart ((Dashboard.new registry namer clock sink hooks).history ops) ++
        (d.nextRecord i).attempt :: begunFor i.chart (m.after.history rest) := by
    rw [story, begunFor_append, begunFor_cons now]
  constructor
  · intro old outstanding
    obtain ⟨older, newer, split⟩ := List.append_of_mem
      (mem_begunFor_of_active (Numbering.run ops) (Dashboard.consistent_after ops) outstanding)
    rw [split, List.append_assoc, List.cons_append] at ids
    apply exists_drops few
    · rw [ids]
      simp
    · exact .inl ⟨older, _, ids, by simp⟩
  · intro undrawable
    obtain ⟨fault, refusal⟩ := RenderInput.exists_refusal undrawable
    have ended : m.Ends i.chart (d.nextRecord i).attempt :=
      .inr ⟨now, i, input, Option.isSome_iff_exists.2 ⟨fault, refusal⟩⟩
    apply exists_drops few
    · rw [ids]
      simp
    · exact .inr ⟨m, by rw [story]; simp, ended⟩

/-- Take any run, and an input that is to be drawn after it. Beginning an attempt always answers a record.
Whether an attempt begins so or by submitting the input, it is the newest of its chart then, and the query
result of the input is kept. If the input has an area and a type, the engine gets one request for the attempt,
which is outstanding; the board is left alone, nothing is handed to the telemetry sink, and observers are told
of the beginning only. If the input has no area, or else no type, the attempt has failed: the engine has
nothing new, the chart has an alert with the text of the fault, the sink is handed the failure exactly if the
attempt brought a new query result, and observers are told of the beginning and of the failure. Callbacks for
the attempt that was outstanding before are dropped from then on, and so are callbacks for the one that has
failed; these as already settled until another attempt begins or the chart goes away. After such a failure no
input of the chart begins an attempt by being submitted until the host closes the alert. -/
theorem beginning_starts_or_fails_at_once (registry : Registry) (namer : ClassNamer) (clock : Clock)
    (sink : TelemetrySink) (hooks : Hooks) (ops : List Operation) (i : RenderInput) :
    let start := Dashboard.new registry namer clock sink hooks
    let d := start.after ops
    (∃ r, (d.step (.begin i)).2.answer = .begun r) ∧
    ∀ op r, op.input? = some i → (d.step op).2.answer.begun? = some r →
      let m : Moment := ⟨d, op⟩
      m.Advances i r ∧
      (i.Drawable → m.Starts i r) ∧
      (i.viewport.width = 0 ∨ i.viewport.height = 0 →
        m.FailsAtOnce i r (.invalidViewport i.viewport)) ∧
      (0 < i.viewport.width → 0 < i.viewport.height → i.vizType.tag = "" →
        m.FailsAtOnce i r .untypedDraw) ∧
      (∀ old, d.active? i.chart = some old →
        m.after.Drops i.chart old.attempt (.superseded r.attempt)) ∧
      (∀ rest, (begunFor i.chart (start.history (ops ++ op :: rest))).length < UInt64.size →
        (∀ old, d.active? i.chart = some old →
          ∃ reason, (m.after.after rest).Drops i.chart old.attempt reason) ∧
        (¬ i.Drawable → ∃ reason, (m.after.after rest).Drops i.chart r.attempt reason)) ∧
      (¬ i.Drawable → ∀ rest,
        (∀ n ∈ m.after.history rest, n.begun? i.chart = none ∧ ¬ n.Removes i.chart) →
        (m.after.after rest).Drops i.chart r.attempt .alreadySettled) ∧
      (¬ i.Drawable → ∀ rest,
        (∀ o ∈ rest, o.Submitted i.chart ∧ o ≠ .setAlert i.chart none) →
        ∀ n ∈ m.after.history rest, n.begun? i.chart = none) := by
  intro start d
  refine ⟨⟨(d.begin i).value, rfl⟩, fun op r input begun => ?_⟩
  intro m
  have enacts : m.Enacts i := Moment.enacts (m := ⟨d, op⟩) input begun
  obtain rfl : r = d.nextRecord i := eq_nextRecord_of_begun (m := ⟨d, op⟩) input begun
  have consistent : d.Consistent := Dashboard.consistent_after ops
  refine ⟨enacts.advances, enacts.starts, ?_, ?_, ?_, ?_, ?_, ?_⟩
  · intro empty
    exact enacts.failsAtOnce (RenderInput.refusal?_of_area empty)
  · intro width height untyped
    exact enacts.failsAtOnce (RenderInput.refusal?_of_type width height untyped)
  · intro old outstanding
    exact enacts.superseded consistent outstanding
  · intro rest few
    have past : m.after.after rest = start.after (ops ++ op :: rest) := by
      rw [Dashboard.after_append]
      rfl
    rw [past]
    exact exists_drops_later input begun few
  · intro undrawable rest quiet
    exact enacts.settled undrawable quiet
  · intro undrawable rest kept
    exact (enacts.halted undrawable).idle kept

/-- A chart without height is drawn while an attempt is outstanding. -/
theorem flat_chart_fails_at_once :
    let flat : RenderInput := { RenderInput.plain ⟨7⟩ with viewport := ⟨640, 0⟩ }
    let d := Dashboard.blank.after [.begin (.plain ⟨7⟩)]
    let m : Moment := ⟨d, .begin flat⟩
    ∃ old r, d.active? ⟨7⟩ = some old ∧ m.reply.answer = .begun r ∧ m.Advances flat r ∧
      m.FailsAtOnce flat r (.invalidViewport ⟨640, 0⟩) ∧
      m.after.Drops ⟨7⟩ old.attempt (.superseded r.attempt) ∧
      m.after.Drops ⟨7⟩ r.attempt .alreadySettled := by
  intro flat d m
  have undrawable : ¬ flat.Drawable := fun drawable => absurd drawable.height (by decide)
  obtain ⟨old, outstanding⟩ : ∃ old, d.active? ⟨7⟩ = some old := ⟨_, rfl⟩
  obtain ⟨⟨r, answer⟩, comes⟩ := beginning_starts_or_fails_at_once ∅ .default { epoch := 0 } .recording {}
    [.begin (.plain ⟨7⟩)] flat
  have begun : m.reply.answer.begun? = some r := congrArg Answer.begun? answer
  obtain ⟨advances, -, fails, -, superseded, -, settled, -⟩ := comes (.begin flat) r rfl begun
  exact ⟨old, r, outstanding, answer, advances, fails (.inr rfl), superseded old outstanding,
    settled undrawable [] (fun n member => absurd member List.not_mem_nil)⟩

end Redraw
