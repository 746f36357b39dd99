import Redraw.Proofs.Attempt.Moves

/-!
# How attempts are completed

At a moment at most one attempt reaches its end: the one that an applied callback is about, or the one
that begins and is refused by the engine. The operation and its answer say which and how
(`Moment.completion?`). `Moment.Finish` adds what comes of it: what is handed to the telemetry sink and
what is signaled to the board. Where no attempt is completed nothing is handed over, and only the host
changes the board.
-/

namespace Redraw

/-- An attempt that has reached its end, and how. -/
structure Completion where
  chart : ChartId
  attempt : AttemptId
  ending : Ending

/-- The completion that a callback asks for. -/
def Operation.completion? : Operation → Option Completion
  | .complete c a e => some ⟨c, a, e⟩
  | .completeRecord r e => some ⟨r.chart, r.attempt, e⟩
  | _ => none

/-- The host changes its board by the operation. -/
def Operation.isHost : Operation → Bool
  | .setStatus _ _ | .setOverlay _ _ | .setAlert _ _ | .signalSuccess _ | .signalFailure _ _ _ => true
  | _ => false

namespace Moment

/-- What is handed to the telemetry sink at the moment, whether the sink keeps it or not. -/
def handed (m : Moment) : List TelemetryEvent := (m.before.perform m.op).emitted.telemetry

/-- The attempt that begins at the moment and that the engine refuses. -/
def refused? (m : Moment) : Option Completion :=
  match m.reply.answer.begun?, m.op.input?.bind (·.refusal?) with
  | some r, some fault => some ⟨r.chart, r.attempt, .failure fault.message none⟩
  | _, _ => none

/-- The attempt that is completed at the moment. -/
def completion? (m : Moment) : Option Completion :=
  if m.reply.answer.isApplied then m.op.completion? else m.refused?

/-- How a moment completes an attempt, or none. -/
inductive Finish (m : Moment) : Prop where
  | called (x : Completion) (r : AttemptRecord) (asked : m.op.completion? = some x)
      (settled : (m.before.settle x.chart x.attempt).1 = .ok r)
      (begun : m.reply.answer.begun? = none)
      (completion : m.completion? = some x)
      (handed : m.handed =
        if r.resultChanged then [r.telemetry m.before.clock x.ending] else [])
      (board : m.after.board =
        if x.ending.signals (m.before.board.status? x.chart)
        then x.ending.signal m.before.board x.chart else m.before.board)
      (tracks : m.after.tracks = m.before.closeTrack x.chart x.ending.phase)
  | refused (i : RenderInput) (fault : Fault) (input : m.op.input? = some i)
      (refusal : i.refusal? = some fault)
      (begun : m.reply.answer.begun? = some (m.before.nextRecord i))
      (completion : m.completion? =
        some ⟨i.chart, (m.before.nextRecord i).attempt, .failure fault.message none⟩)
      (handed : m.handed =
        if (m.before.nextRecord i).resultChanged
        then [(m.before.nextRecord i).telemetry m.before.clock (.failure fault.message none)] else [])
      (board : m.after.board = m.before.board.signalFailure i.chart fault.message none)
      (track : m.after.tracks.get? i.chart = some (m.before.begunTrack i))
  | nothing (completion : m.completion? = none) (handed : m.handed = [])
      (board : m.op.isHost = false → m.after.board = m.before.board)

variable {m : Moment}

/-- What begins at a moment is answered by its record. -/
theorem answer_of_begun? {c : ChartId} {a : AttemptId} (begun : m.begun? c = some a) :
    ∃ r, m.reply.answer.begun? = some r ∧ r.chart = c ∧ r.attempt = a := by
  obtain ⟨r, filtered, attempt⟩ := Option.map_eq_some_iff.1 begun
  obtain ⟨answer, chart⟩ := Option.filter_eq_some_iff.1 filtered
  exact ⟨r, answer, of_decide_eq_true chart, attempt⟩

/-- Of an attempt that has begun, the input says whether it was refused. -/
theorem refused?_of_begun {i : RenderInput} {r : AttemptRecord} (input : m.op.input? = some i)
    (begun : m.reply.answer.begun? = some r) :
    m.refused? =
      i.refusal?.map fun fault => ⟨r.chart, r.attempt, .failure fault.message none⟩ := by
  unfold refused?
  rw [begun, input, Option.bind_some]
  cases i.refusal? <;> rfl

theorem refused?_of_none (begun : m.reply.answer.begun? = none) : m.refused? = none := by
  unfold refused?
  rw [begun]

/-- Where no callback is applied, only what the engine refuses is completed. -/
theorem completion?_of_unapplied (silent : m.reply.answer.isApplied = false) :
    m.completion? = m.refused? := by
  simp [completion?, silent]

/-- What begins is completed at the same moment exactly if the engine refuses it. -/
theorem completion?_of_begun {i : RenderInput} {r : AttemptRecord} (input : m.op.input? = some i)
    (begun : m.reply.answer.begun? = some r) (silent : m.reply.answer.isApplied = false) :
    m.completion? =
      i.refusal?.map fun fault => ⟨r.chart, r.attempt, .failure fault.message none⟩ := by
  rw [completion?_of_unapplied silent, refused?_of_begun input begun]

/-- Where nothing is applied and nothing begins, nothing is completed. -/
theorem completion?_of_idle (silent : m.reply.answer.isApplied = false)
    (begun : m.reply.answer.begun? = none) : m.completion? = none := by
  rw [completion?_of_unapplied silent, refused?_of_none begun]

/-- What begins is completed at once if the engine refuses it, and is not completed otherwise. -/
theorem finish_of_begin {i : RenderInput} (input : m.op.input? = some i)
    (begun : m.reply.answer.begun? = some (m.before.begin i).value)
    (silent : m.reply.answer.isApplied = false)
    (handed : m.handed = (m.before.begin i).emitted.telemetry)
    (board : m.after.board = (m.before.begin i).dashboard.board)
    (tracks : m.after.tracks = (m.before.begin i).dashboard.tracks) : m.Finish := by
  rw [Dashboard.begin_value] at begun
  have completion := completion?_of_begun input begun silent
  cases refusal : i.refusal? with
  | none =>
    rw [Dashboard.begin_accepted refusal] at handed board
    rw [refusal] at completion
    exact .nothing completion handed fun _ => board
  | some fault =>
    rw [refusal] at completion
    have track : m.after.tracks.get? i.chart = some (m.before.begunTrack i) := by
      rw [tracks, Dashboard.get?_begin_tracks, if_pos rfl]
    rw [Dashboard.begin_refused refusal] at handed board
    exact .refused i fault input refusal begun completion handed board track

/-- A callback completes the attempt that it takes the record of, or nothing. -/
theorem finish_of_complete {x : Completion} (asked : m.op.completion? = some x)
    (answer : m.reply.answer = .callback (m.before.complete x.chart x.attempt x.ending).value)
    (handed : m.handed = (m.before.complete x.chart x.attempt x.ending).emitted.telemetry)
    (after : m.after = (m.before.complete x.chart x.attempt x.ending).dashboard) : m.Finish := by
  have begun : m.reply.answer.begun? = none := by
    rw [answer]
    rfl
  cases settled : (m.before.settle x.chart x.attempt).1 with
  | error reason =>
    rw [Dashboard.complete_dropped settled] at answer handed after
    have completion : m.completion? = none := by
      rw [completion?, answer, refused?_of_none begun]
      rfl
    exact .nothing completion handed fun _ => congrArg Dashboard.board after
  | ok r =>
    rw [Dashboard.complete_applied settled] at answer handed after
    have completion : m.completion? = some x := by
      rw [completion?, answer, asked]
      rfl
    exact .called x r asked settled begun completion handed (congrArg Dashboard.board after)
      (congrArg Dashboard.tracks after)

theorem finish_of_idle (silent : m.reply.answer.isApplied = false)
    (begun : m.reply.answer.begun? = none) (handed : m.handed = [])
    (board : m.op.isHost = false → m.after.board = m.before.board) : m.Finish :=
  .nothing (completion?_of_idle silent begun) handed board

theorem finish_of_submit (d : Dashboard) (i : RenderInput) : Finish ⟨d, .submit i⟩ := by
  have answer : (⟨d, .submit i⟩ : Moment).reply.answer = .submitted (d.submit i).value := rfl
  have handed : (⟨d, .submit i⟩ : Moment).handed = (d.submit i).emitted.telemetry := rfl
  have after : (⟨d, .submit i⟩ : Moment).after = (d.submit i).dashboard := rfl
  cases d.submission i with
  | withheld decision _ _ outcome =>
    rw [outcome] at answer handed after
    exact finish_of_idle (by rw [answer]; rfl) (by rw [answer]; rfl) handed
      fun _ => by rw [after]
  | skipped reason _ _ outcome =>
    rw [outcome] at answer handed after
    exact finish_of_idle (by rw [answer]; rfl) (by rw [answer]; rfl) handed
      fun _ => by rw [after]
  | started _ _ outcome =>
    rw [outcome] at answer handed after
    exact finish_of_begin (i := i) rfl (by rw [answer]; rfl) (by rw [answer]; rfl) handed
      (by rw [after]) (by rw [after])

theorem finish_of_outcome {d e : Dashboard} {op : Operation} {answer : Answer}
    (outcome : d.perform op = { value := answer, dashboard := e })
    (plain : answer = .done ∨ ∃ fault, answer = .refusal fault) (board : e.board = d.board) :
    Finish ⟨d, op⟩ := by
  have reply : (⟨d, op⟩ : Moment).reply.answer = answer := congrArg Outcome.value outcome
  have handed : (⟨d, op⟩ : Moment).handed = [] := congrArg (·.emitted.telemetry) outcome
  have after : (⟨d, op⟩ : Moment).after = e := congrArg Outcome.dashboard outcome
  refine finish_of_idle ?_ ?_ handed fun _ => ?_
  · rw [reply]
    rcases plain with rfl | ⟨fault, rfl⟩ <;> rfl
  · rw [reply]
    rcases plain with rfl | ⟨fault, rfl⟩ <;> rfl
  · rw [after]
    exact board

/-- Where nothing is to be drawn, completed or removed, the sink is handed nothing. -/
theorem handed_of_isQuiet (d : Dashboard) {op : Operation} (quiet : op.isQuiet = true) :
    (⟨d, op⟩ : Moment).handed = [] := by
  cases op with
  | submit _ | begin _ | complete _ _ _ | completeRecord _ _ | remove _ | forget _ =>
    exact nomatch quiet
  | addObserver id =>
    obtain ⟨_, _, -, outcome⟩ := d.addObserver_outcome id
    exact congrArg (·.emitted.telemetry) outcome
  | addStrategy v s =>
    obtain ⟨_, _, -, outcome⟩ := d.addStrategy_outcome v s
    exact congrArg (·.emitted.telemetry) outcome
  | _ => rfl

/-- Every moment completes an attempt in one of the two ways, or none. -/
theorem finish (m : Moment) : m.Finish := by
  obtain ⟨d, op⟩ := m
  cases op with
  | submit i => exact finish_of_submit d i
  | begin i => exact finish_of_begin (i := i) rfl rfl rfl rfl rfl rfl
  | complete c a e => exact finish_of_complete (x := ⟨c, a, e⟩) rfl rfl rfl rfl
  | completeRecord r e => exact finish_of_complete (x := ⟨r.chart, r.attempt, e⟩) rfl rfl rfl rfl
  | remove c =>
    obtain ⟨_, _, outcome⟩ := d.remove_outcome c
    exact finish_of_idle rfl rfl (congrArg (·.emitted.telemetry) outcome)
      fun _ => congrArg (·.dashboard.board) outcome
  | forget c =>
    obtain ⟨_, _, outcome⟩ := d.forget_outcome c
    exact finish_of_idle rfl rfl (congrArg (·.emitted.telemetry) outcome)
      fun _ => congrArg (·.dashboard.board) outcome
  | addObserver id =>
    obtain ⟨_, _, plain, outcome⟩ := d.addObserver_outcome id
    exact finish_of_outcome outcome plain rfl
  | addStrategy v s =>
    obtain ⟨_, _, plain, outcome⟩ := d.addStrategy_outcome v s
    exact finish_of_outcome outcome plain rfl
  | setStatus _ _ | setOverlay _ _ | setAlert _ _ | signalSuccess _ | signalFailure _ _ _ =>
    exact finish_of_idle rfl rfl rfl fun guest => nomatch guest
  | _ => exact finish_of_idle rfl rfl rfl fun _ => rfl

end Moment

end Redraw
