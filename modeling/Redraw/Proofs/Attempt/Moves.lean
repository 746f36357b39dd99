import Redraw.Proofs.History
import Redraw.Proofs.Outcomes

/-!
# Moves of a chart

What a moment does to the attempts of one chart is one of four moves: an attempt begins, the
outstanding attempt is settled, the chart is forgotten, or its attempts rest as they are. The history
says which (what begins, ends and is removed at the moment), the dashboard says how the track and the
retired number change, and `Moment.move` puts both together. Invariants of runs go by these four
cases and do not look at the operations again.
-/

namespace Redraw

/-- The input that an operation wants drawn. -/
def Operation.input? : Operation → Option RenderInput
  | .submit i | .begin i => some i
  | _ => none

/-- The chart and the attempt that a callback is about. -/
def Operation.callback? : Operation → Option (ChartId × AttemptId)
  | .complete c a _ => some (c, a)
  | .completeRecord r _ => some (r.chart, r.attempt)
  | _ => none

/-- The chart that is removed or forgotten. -/
def Operation.removed? : Operation → Option ChartId
  | .remove c | .forget c => some c
  | _ => none

/-- The operation neither wants an input drawn, nor is it a callback, nor does it remove a chart. -/
def Operation.isQuiet (op : Operation) : Bool :=
  op.input?.isNone && op.callback?.isNone && op.removed?.isNone

/-- Only submitting and beginning want an input drawn. -/
theorem Operation.eq_of_input {op : Operation} {i : RenderInput} (input : op.input? = some i) :
    op = .submit i ∨ op = .begin i := by
  cases op with
  | submit j =>
    obtain rfl : j = i := Option.some.inj input
    exact .inl rfl
  | begin j =>
    obtain rfl : j = i := Option.some.inj input
    exact .inr rfl
  | _ => exact nomatch input

/-- A chart goes away only by being removed or forgotten. -/
theorem Operation.eq_of_removed {op : Operation} {c : ChartId} (removed : op.removed? = some c) :
    op = .remove c ∨ op = .forget c := by
  cases op with
  | remove k =>
    obtain rfl : k = c := Option.some.inj removed
    exact .inl rfl
  | forget k =>
    obtain rfl : k = c := Option.some.inj removed
    exact .inr rfl
  | _ => exact nomatch removed

/-- A callback completes the attempt that it is about. -/
theorem Dashboard.perform_of_callback (d : Dashboard) {op : Operation} {c : ChartId} {a : AttemptId}
    (called : op.callback? = some (c, a)) :
    ∃ e, d.perform op =
      { value := .callback (d.complete c a e).value
        dashboard := (d.complete c a e).dashboard
        emitted := (d.complete c a e).emitted } := by
  cases op with
  | complete k b e =>
    obtain ⟨rfl, rfl⟩ := Prod.mk.inj (Option.some.inj called)
    exact ⟨e, rfl⟩
  | completeRecord r e =>
    obtain ⟨rfl, rfl⟩ := Prod.mk.inj (Option.some.inj called)
    exact ⟨e, rfl⟩
  | _ => exact nomatch called

/-- The record of the attempt that has begun by an answer. -/
def Answer.begun? : Answer → Option AttemptRecord
  | .begun r | .submitted (.started r) => some r
  | _ => none

/-- The answer to a callback that is applied. -/
def Answer.isApplied : Answer → Bool
  | .callback o => o.isApplied
  | _ => false

namespace Moment

/-- The attempt of a chart that begins at the moment. -/
def begun? (m : Moment) (c : ChartId) : Option AttemptId :=
  (m.reply.answer.begun?.filter (·.chart = c)).map (·.attempt)

/-- The chart is removed or forgotten at the moment. -/
def Removes (m : Moment) (c : ChartId) : Prop := m.op.removed? = some c

/-- The engine refuses what the moment wants drawn. -/
def IsRefused (m : Moment) : Prop := ∃ i, m.op.input? = some i ∧ i.refusal?.isSome

/-- An attempt reaches its end at the moment: a callback for it is applied, or it begins and the
engine refuses it. -/
def Ends (m : Moment) (c : ChartId) (a : AttemptId) : Prop :=
  m.op.callback? = some (c, a) ∧ m.reply.answer.isApplied = true ∨ m.begun? c = some a ∧ m.IsRefused

/-- What a moment does to the attempts of a chart. -/
inductive Move (m : Moment) (c : ChartId) : Prop where
  | begins (i : RenderInput) (input : m.op.input? = some i) (chart : i.chart = c)
      (begun : m.begun? c = some (m.before.nextRecord i).attempt)
      (ends : ∀ a, m.Ends c a ↔ a = (m.before.nextRecord i).attempt ∧ i.refusal?.isSome)
      (stays : ¬ m.Removes c)
      (track : m.after.tracks.get? c = some (m.before.begunTrack i))
      (retired : m.after.retired.get? c = none)
  | settles (t : Track) (r : AttemptRecord) (e : Ending)
      (known : m.before.tracks.get? c = some t) (active : t.active = some r)
      (begun : m.begun? c = none) (ends : ∀ a, m.Ends c a ↔ a = t.latest) (stays : ¬ m.Removes c)
      (track : m.after.tracks.get? c = some (t.close e.phase))
      (retired : m.after.retired.get? c = m.before.retired.get? c)
  | forgets (t : Track) (known : m.before.tracks.get? c = some t)
      (begun : m.begun? c = none) (ends : ∀ a, ¬ m.Ends c a) (leaves : m.Removes c)
      (track : m.after.tracks.get? c = none)
      (retired : m.after.retired.get? c = some t.latest)
  | rests (begun : m.begun? c = none) (ends : ∀ a, ¬ m.Ends c a)
      (absent : m.Removes c → m.before.tracks.get? c = none)
      (track : m.after.tracks.get? c = m.before.tracks.get? c)
      (retired : m.after.retired.get? c = m.before.retired.get? c)

variable {m : Moment} {c : ChartId}

theorem begun?_of_answer {r : AttemptRecord} (answer : m.reply.answer.begun? = some r) :
    m.begun? c = if r.chart = c then some r.attempt else none := by
  unfold begun?
  rw [answer]
  by_cases same : r.chart = c <;> simp [Option.filter, same]

theorem begun?_of_none (answer : m.reply.answer.begun? = none) : m.begun? c = none := by
  unfold begun?
  rw [answer]
  rfl

/-- What begins is refused exactly if the engine refuses its input. -/
theorem isRefused_iff {i : RenderInput} (input : m.op.input? = some i) :
    m.IsRefused ↔ i.refusal?.isSome := by
  unfold IsRefused
  simp [input]

/-- Where no callback arrives, only what the engine refuses can end. -/
theorem ends_iff_of_no_callback {a : AttemptId} (silent : m.op.callback? = none) :
    m.Ends c a ↔ m.begun? c = some a ∧ m.IsRefused := by
  unfold Ends
  simp [silent]

/-- Where nothing begins, only a callback that is applied can end an attempt. -/
theorem ends_iff_of_no_begin {a : AttemptId} (idle : m.begun? c = none) :
    m.Ends c a ↔ m.op.callback? = some (c, a) ∧ m.reply.answer.isApplied = true := by
  unfold Ends
  simp [idle]

/-- The moment leaves attempts and submitted inputs alone, and nothing is emitted about them. -/
structure Quiet (m : Moment) : Prop where
  begun : m.reply.answer.begun? = none
  tracks : m.after.tracks = m.before.tracks
  retired : m.after.retired = m.before.retired
  seen : m.after.seen = m.before.seen
  telemetry : m.reply.telemetry = []
  events : m.reply.events = []

theorem Quiet.of_outcome {d e : Dashboard} {op : Operation} {answer : Answer}
    (outcome : d.perform op = { value := answer, dashboard := e })
    (plain : answer = .done ∨ ∃ fault, answer = .refusal fault) (tracks : e.tracks = d.tracks)
    (retired : e.retired = d.retired) (seen : e.seen = d.seen) : Quiet ⟨d, op⟩ := by
  have reply : (d.step op).2.answer = answer := congrArg Outcome.value outcome
  have after : (d.step op).1 = e := congrArg Outcome.dashboard outcome
  have emitted : (d.perform op).emitted = {} := congrArg Outcome.emitted outcome
  constructor
  · unfold Moment.reply
    rw [reply]
    rcases plain with rfl | ⟨fault, rfl⟩ <;> rfl
  · exact (congrArg Dashboard.tracks after).trans tracks
  · exact (congrArg Dashboard.retired after).trans retired
  · exact (congrArg Dashboard.seen after).trans seen
  · exact (congrArg (fun x => d.sink.kept x.telemetry) emitted).trans d.sink.kept_nil
  · exact congrArg Emissions.events emitted

/-- Operations that have nothing to do with attempts leave them alone. -/
theorem quiet_of_isQuiet (d : Dashboard) {op : Operation} (quiet : op.isQuiet = true) :
    Quiet ⟨d, op⟩ := by
  cases op with
  | submit _ | begin _ | complete _ _ _ | completeRecord _ _ | remove _ | forget _ =>
    exact nomatch quiet
  | addObserver id =>
    obtain ⟨answer, observers, plain, outcome⟩ := d.addObserver_outcome id
    exact .of_outcome outcome plain rfl rfl rfl
  | addStrategy v s =>
    obtain ⟨answer, registry, plain, outcome⟩ := d.addStrategy_outcome v s
    exact .of_outcome outcome plain rfl rfl rfl
  | _ => exact ⟨rfl, rfl, rfl, rfl, d.sink.kept_nil, rfl⟩

/-- Beginning an attempt changes the track of its own chart and leaves the others. -/
theorem move_of_begin {i : RenderInput} (input : m.op.input? = some i)
    (silent : m.op.callback? = none) (stays : m.op.removed? = none)
    (answer : m.reply.answer.begun? = some (m.before.begin i).value)
    (tracks : m.after.tracks = (m.before.begin i).dashboard.tracks)
    (retired : m.after.retired = (m.before.begin i).dashboard.retired) : m.Move c := by
  have begun : m.begun? c = if i.chart = c then some (m.before.nextRecord i).attempt else none := by
    rw [begun?_of_answer answer, Dashboard.begin_value]
    rfl
  have kept : ¬ m.Removes c := by
    unfold Removes
    rw [stays]
    exact fun h => nomatch h
  by_cases chart : i.chart = c
  · rw [if_pos chart] at begun
    refine .begins i input chart begun (fun a => ?_) kept ?_ ?_
    · rw [ends_iff_of_no_callback silent, begun, isRefused_iff input, Option.some.injEq]
      exact and_congr_left fun _ => eq_comm
    · rw [tracks, Dashboard.get?_begin_tracks, if_pos chart]
    · rw [retired, Dashboard.get?_begin_retired, if_pos chart]
  · rw [if_neg chart] at begun
    refine .rests begun (fun a ended => ?_) (fun leaves => absurd leaves kept) ?_ ?_
    · rw [ends_iff_of_no_callback silent, begun] at ended
      exact nomatch ended.1
    · rw [tracks, Dashboard.get?_begin_tracks, if_neg chart]
    · rw [retired, Dashboard.get?_begin_retired, if_neg chart]

/-- A callback that is applied settles the track of its chart. One that is dropped leaves all of them. -/
theorem move_of_complete {k : ChartId} {a : AttemptId} {e : Ending}
    (called : m.op.callback? = some (k, a)) (stays : m.op.removed? = none)
    (answer : m.reply.answer = .callback (m.before.complete k a e).value)
    (tracks : m.after.tracks = (m.before.complete k a e).dashboard.tracks)
    (retired : m.after.retired = (m.before.complete k a e).dashboard.retired) : m.Move c := by
  have begun : m.begun? c = none := begun?_of_none (by rw [answer]; rfl)
  have kept : ¬ m.Removes c := by
    unfold Removes
    rw [stays]
    exact fun h => nomatch h
  cases settled : (m.before.settle k a).1 with
  | error reason =>
    rw [Dashboard.complete_dropped settled] at answer tracks retired
    refine .rests begun (fun b ended => ?_) (fun leaves => absurd leaves kept) ?_ ?_
    · rw [ends_iff_of_no_begin begun, answer] at ended
      exact nomatch ended.2
    · rw [tracks]
    · rw [retired]
  | ok r =>
    rw [Dashboard.complete_applied settled] at answer tracks retired
    obtain ⟨t, known, newest, active, -⟩ := Dashboard.settle_eq_ok.1 settled
    have ends : ∀ b, m.Ends c b ↔ k = c ∧ a = b := by
      intro b
      rw [ends_iff_of_no_begin begun, called, answer, Option.some.injEq, Prod.mk.injEq]
      exact and_iff_left rfl
    by_cases chart : k = c
    · subst chart
      refine .settles t r e known active begun (fun b => ?_) kept ?_ ?_
      · rw [ends, newest]
        exact ⟨fun h => h.2.symm, fun h => ⟨rfl, h.symm⟩⟩
      · rw [tracks, Dashboard.get?_closeTrack, if_pos rfl, known]
        rfl
      · rw [retired]
    · refine .rests begun (fun b ended => chart ((ends b).1 ended).1)
        (fun leaves => absurd leaves kept) ?_ ?_
      · rw [tracks, Dashboard.get?_closeTrack, if_neg chart]
      · rw [retired]

/-- Forgetting a chart retires its number if it has a track. -/
theorem move_of_forget {k : ChartId} (removed : m.op.removed? = some k)
    (silent : m.op.callback? = none) (answer : m.reply.answer.begun? = none)
    (tracks : m.after.tracks = (m.before.forget k).dashboard.tracks)
    (retired : m.after.retired = (m.before.forget k).dashboard.retired) : m.Move c := by
  have begun : m.begun? c = none := begun?_of_none answer
  have quiet : ∀ a, ¬ m.Ends c a := by
    intro a ended
    rw [ends_iff_of_no_begin begun, silent] at ended
    exact nomatch ended.1
  have leaves : m.Removes c ↔ k = c := by
    unfold Removes
    rw [removed, Option.some.injEq]
  unfold Dashboard.forget at tracks retired
  cases known : m.before.tracks.get? k with
  | none =>
    rw [known] at tracks retired
    exact .rests begun quiet (fun h => leaves.1 h ▸ known) (by rw [tracks]) (by rw [retired])
  | some t =>
    rw [known] at tracks retired
    by_cases chart : k = c
    · subst chart
      refine .forgets t known begun quiet (leaves.2 rfl) ?_ ?_
      · rw [tracks]
        simp
      · rw [retired]
        simp
    · refine .rests begun quiet (fun h => absurd (leaves.1 h) chart) ?_ ?_
      · rw [tracks]
        simp [chart]
      · rw [retired]
        simp [chart]

theorem move_of_rest (silent : m.op.callback? = none) (stays : m.op.removed? = none)
    (answer : m.reply.answer.begun? = none) (tracks : m.after.tracks = m.before.tracks)
    (retired : m.after.retired = m.before.retired) : m.Move c := by
  have begun : m.begun? c = none := begun?_of_none answer
  refine .rests begun (fun a ended => ?_) (fun leaves => ?_) (by rw [tracks]) (by rw [retired])
  · rw [ends_iff_of_no_begin begun, silent] at ended
    exact nomatch ended.1
  · unfold Removes at leaves
    rw [stays] at leaves
    exact nomatch leaves

theorem move_of_quiet (silent : m.op.callback? = none) (stays : m.op.removed? = none)
    (quiet : m.Quiet) : m.Move c :=
  move_of_rest silent stays quiet.begun quiet.tracks quiet.retired

/-- A submitted input begins an attempt or leaves all tracks. -/
theorem move_of_submit (d : Dashboard) (i : RenderInput) : Move ⟨d, .submit i⟩ c := by
  have answer : (⟨d, .submit i⟩ : Moment).reply.answer = .submitted (d.submit i).value := rfl
  have after : (⟨d, .submit i⟩ : Moment).after = (d.submit i).dashboard := rfl
  cases d.submission i with
  | withheld decision _ _ outcome =>
    rw [outcome] at answer after
    exact move_of_rest rfl rfl (by rw [answer]; rfl) (by rw [after]) (by rw [after])
  | skipped reason _ _ outcome =>
    rw [outcome] at answer after
    exact move_of_rest rfl rfl (by rw [answer]; rfl) (by rw [after]) (by rw [after])
  | started _ _ outcome =>
    rw [outcome] at answer after
    exact move_of_begin (i := i) rfl rfl rfl (by rw [answer]; rfl) (by rw [after]) (by rw [after])

theorem move_of_remove (d : Dashboard) (k : ChartId) : Move ⟨d, .remove k⟩ c := by
  have after : (⟨d, .remove k⟩ : Moment).after = (d.remove k).dashboard := rfl
  rw [Dashboard.remove_eq] at after
  exact move_of_forget (k := k) rfl rfl rfl (by rw [after]) (by rw [after])

/-- Every moment is a move of every chart. -/
theorem move (m : Moment) (c : ChartId) : m.Move c := by
  obtain ⟨d, op⟩ := m
  cases op with
  | begin i => exact move_of_begin (i := i) rfl rfl rfl rfl rfl rfl
  | submit i => exact move_of_submit d i
  | complete k a e => exact move_of_complete (k := k) (a := a) (e := e) rfl rfl rfl rfl rfl
  | completeRecord r e =>
    exact move_of_complete (k := r.chart) (a := r.attempt) (e := e) rfl rfl rfl rfl rfl
  | remove k => exact move_of_remove d k
  | forget k => exact move_of_forget (k := k) rfl rfl rfl rfl rfl
  | _ => exact move_of_quiet rfl rfl (quiet_of_isQuiet d rfl)

end Moment

/-! ## Records of attempts -/

/-- What begins is begun with the input that is to be drawn, and at the time of the moment. -/
theorem eq_nextRecord_of_begun {m : Moment} {i : RenderInput} {r : AttemptRecord}
    (input : m.op.input? = some i) (begun : m.reply.answer.begun? = some r) :
    r = m.before.nextRecord i := by
  obtain ⟨d, op⟩ := m
  rcases Operation.eq_of_input input with rfl | rfl
  · have answer : (⟨d, .submit i⟩ : Moment).reply.answer = .submitted (d.submit i).value := rfl
    rw [answer] at begun
    cases d.submission i with
    | withheld _ _ _ outcome | skipped _ _ _ outcome =>
      rw [outcome] at begun
      exact nomatch begun
    | started _ _ outcome =>
      rw [outcome, Dashboard.begin_value] at begun
      exact (Option.some.inj begun).symm
  · have answer : (⟨d, .begin i⟩ : Moment).reply.answer = .begun (d.begin i).value := rfl
    rw [answer, Dashboard.begin_value] at begun
    exact (Option.some.inj begun).symm

theorem eq_nextRecord_of_active {d : Dashboard} {i : RenderInput} {r : AttemptRecord}
    (active : (d.begunTrack i).active = some r) : r = d.nextRecord i := by
  unfold Dashboard.begunTrack at active
  split at active
  · exact nomatch active
  · exact (Option.some.inj active).symm

end Redraw
