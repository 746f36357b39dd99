import Redraw.Proofs.Gate.Blocking
import Redraw.Proofs.Gate.Changes
import Redraw.Proofs.Gate.LastSubmission
import Redraw.Proofs.Telemetry.Timing

/-!
# Attempts that bring a new query result

An attempt brings a new query result if its input carries another one than the input of the attempt that
began before it. The dashboard keeps the result of the newest attempt until the chart goes away. So inputs
that are withheld or skipped in between make no difference, and neither does how that attempt ended. The gate
has a memory of its own, the last input that was submitted. The two memories hold the same result after a
submission that began an attempt, as long as nothing is begun past the gate and nothing is forgotten but by
removing the chart.
-/

namespace Redraw

/-- The identity of the query result that an input carries. -/
def RenderInput.resultIdentity? (i : RenderInput) : Option String := i.result.map (·.identity)

/-- An attempt to draw the input begins at the moment. -/
def Moment.Begins (m : Moment) (c : ChartId) (i : RenderInput) : Prop :=
  m.op.input? = some i ∧ i.chart = c ∧ (m.begun? c).isSome

/-- The newest attempt of the chart since it was last removed or forgotten was begun with the input. -/
def DrawnLast (c : ChartId) (i : RenderInput) (h : History) : Prop :=
  Since (·.Begins c i) (fun m => (m.begun? c).isSome ∨ m.Removes c) h

/-- The most recent submission of the chart since it was last removed has begun an attempt. -/
def StartedLast (c : ChartId) (s : SeenInput) (h : History) : Prop :=
  Since (fun m => m.Submits c s ∧ (m.begun? c).isSome)
    (fun m => (∃ newer, m.Submits c newer) ∨ m.op = .remove c) h

/-- Attempts of the chart are begun by submitting inputs only, and the chart goes away by being removed
only. -/
def Operation.ThroughInputs (op : Operation) (c : ChartId) : Prop := op.Submitted c ∧ op ≠ .forget c

/-- The dashboard keeps the query result of the newest attempt of the chart until the chart goes away. -/
structure Dashboard.KeepsResult (c : ChartId) (h : History) (d : Dashboard) : Prop where
  drawn : ∀ i, DrawnLast c i h → (d.track c).lastResult = i.result
  undrawn : (∀ i, ¬ DrawnLast c i h) → (d.track c).lastResult = none

variable {c : ChartId} {i : RenderInput} {h earlier : History} {m : Moment} {d : Dashboard}

/-! ## The result of the newest attempt -/

theorem drawnLast_snoc :
    DrawnLast c i (h ++ [m]) ↔
      m.Begins c i ∨ DrawnLast c i h ∧ ¬ ((m.begun? c).isSome ∨ m.Removes c) :=
  since_snoc

/-- Where nothing begins and the chart stays, the newest attempt is the same. -/
theorem drawnLast_rest (idle : m.begun? c = none) (stays : ¬ m.Removes c) :
    DrawnLast c i (h ++ [m]) ↔ DrawnLast c i h := by
  simp [drawnLast_snoc, Moment.Begins, idle, stays]

/-- A chart that has gone has no newest attempt. -/
theorem not_drawnLast_of_removes (idle : m.begun? c = none) (leaves : m.Removes c) :
    ¬ DrawnLast c i (h ++ [m]) := by
  simp [drawnLast_snoc, Moment.Begins, idle, leaves]

namespace Dashboard

theorem lastResult_of_unknown (unknown : d.tracks.get? c = none) : (d.track c).lastResult = none := by
  rw [track_of_unknown unknown]
  cases d.retired.get? c <;> rfl

/-- A new attempt brings a new result if the one that is kept has another identity. -/
theorem resultChanged_nextRecord (d : Dashboard) (i : RenderInput) :
    (d.nextRecord i).resultChanged = !Payload.same (d.track i.chart).lastResult i.result := rfl

theorem resultChanged_iff (d : Dashboard) (i : RenderInput) :
    (d.nextRecord i).resultChanged = true ↔
      i.resultIdentity? ≠ (d.track i.chart).lastResult.map (·.identity) := by
  rw [resultChanged_nextRecord, Payload.same, Bool.not_eq_true', decide_eq_false_iff_not]
  exact ne_comm

namespace KeepsResult

/-- What the chart keeps is the same, and so is its newest attempt. -/
theorem rest (k : m.before.KeepsResult c h) (idle : m.begun? c = none) (stays : ¬ m.Removes c)
    (result : (m.after.track c).lastResult = (m.before.track c).lastResult) :
    m.after.KeepsResult c (h ++ [m]) := by
  constructor
  · intro i drawn
    rw [result]
    exact k.drawn i ((drawnLast_rest idle stays).1 drawn)
  · intro undrawn
    rw [result]
    exact k.undrawn fun i drawn => undrawn i ((drawnLast_rest idle stays).2 drawn)

/-- A chart without a track keeps no result. -/
theorem gone (idle : m.begun? c = none) (leaves : m.Removes c)
    (unknown : m.after.tracks.get? c = none) : m.after.KeepsResult c (h ++ [m]) where
  drawn _ drawn := absurd drawn (not_drawnLast_of_removes idle leaves)
  undrawn _ := lastResult_of_unknown unknown

/-- Every moment keeps the result of the newest attempt. -/
theorem step (k : m.before.KeepsResult c h) : m.after.KeepsResult c (h ++ [m]) := by
  cases m.move c with
  | begins i input chart begun _ _ track _ =>
    have begins : m.Begins c i := ⟨input, chart, by rw [begun]; rfl⟩
    have kept : (m.after.track c).lastResult = i.result := by
      rw [track_of_known track, lastResult_begunTrack]
    constructor
    · intro j drawn
      rcases drawnLast_snoc.1 drawn with ⟨same, -, -⟩ | ⟨-, ended⟩
      · rw [kept, Option.some.inj (input.symm.trans same)]
      · exact absurd (.inl begins.2.2) ended
    · exact fun undrawn => absurd (drawnLast_snoc.2 (.inl begins)) (undrawn i)
  | settles t r e known _ begun _ stays track _ =>
    refine k.rest begun stays ?_
    rw [track_of_known track, track_of_known known]
    rfl
  | forgets t _ begun _ leaves track _ => exact .gone begun leaves track
  | rests begun _ absent track retired =>
    by_cases leaves : m.Removes c
    · exact .gone begun leaves (track.trans (absent leaves))
    · refine k.rest begun leaves ?_
      unfold Dashboard.track
      rw [track, retired]

variable {registry : Registry} {namer : ClassNamer} {clock : Clock} {sink : TelemetrySink}
  {hooks : Hooks}

/-- The result of the newest attempt of every chart is kept throughout every run. -/
theorem run (c : ChartId) (ops : List Operation) :
    ((new registry namer clock sink hooks).after ops).KeepsResult c
      ((new registry namer clock sink hooks).history ops) :=
  run_induction ⟨fun _ drawn => absurd drawn not_since_nil, fun _ => rfl⟩
    (fun _ e op k => k.step (m := ⟨e, op⟩)) ops

end KeepsResult

end Dashboard

/-! ## The two memories -/

/-- The most recent submission is the last one, whether or not it has begun an attempt. -/
theorem StartedLast.lastSubmission {s : SeenInput} (started : StartedLast c s h) :
    LastSubmission c s h := by
  obtain ⟨earlier, m, later, split, ⟨submits, -⟩, quiet⟩ := started
  exact ⟨earlier, m, later, split, submits, quiet⟩

/-- A chart that is driven through its inputs has no newer attempt than that of its last submission, if that
has begun one. -/
theorem StartedLast.drawnLast {s : SeenInput} (started : StartedLast c s h)
    (through : ∀ m ∈ h, m.op.ThroughInputs c) : DrawnLast c s.input h := by
  obtain ⟨earlier, m, later, rfl, ⟨⟨submit, chart, status⟩, begun⟩, quiet⟩ := started
  refine ⟨earlier, m, later, rfl, ⟨?_, chart, begun⟩, fun n member => ?_⟩
  · rw [submit]
    rfl
  · obtain ⟨submitted, kept⟩ := through n (by simp [member])
    rintro (newer | leaves)
    · obtain ⟨a, begun⟩ := Option.isSome_iff_exists.1 newer
      cases n.move c with
      | begins i input own _ _ _ _ _ =>
        rcases Operation.eq_of_input input with again | past
        · exact quiet n member (.inl ⟨⟨i, n.before.board.snapshot c⟩, again, own, rfl⟩)
        · exact submitted i past own
      | settles _ _ _ _ _ idle _ _ _ _ | forgets _ _ idle _ _ _ _ | rests idle _ _ _ _ =>
        rw [idle] at begun
        exact nomatch begun
    · rcases Operation.eq_of_removed leaves with removed | forgotten
      · exact quiet n member (.inr removed)
      · exact kept forgotten

/-! ## The attempt with a number -/

/-- What stands in a list once and last has nothing after it. -/
theorem eq_nil_of_nodup_of_last {α : Type} {a : α} {front rest earlier : List α}
    (apart : (front ++ a :: rest).Nodup) (last : front ++ a :: rest = earlier ++ [a]) : rest = [] := by
  have distinct : a ∉ front ++ rest := (List.nodup_cons.1 (List.nodup_middle.1 apart)).1
  have before : a ∉ front := fun member => distinct (List.mem_append_left _ member)
  have after : a ∉ rest := fun member => distinct (List.mem_append_right _ member)
  exact ((List.append_cons_inj_of_notMem before after).1 last).2.2

/-- The number of the newest attempt is the one that was given last. -/
theorem BegunLast.ids {a : AttemptId} {b : Moment} {r : AttemptRecord} (begun : BegunLast c a b i r h) :
    ∃ older, begunFor c h = older ++ [a] := by
  obtain ⟨first, n, rest, rfl, rfl, quiet⟩ := begun.newest
  have now : n.begun? c = some a := by
    rw [Moment.begun?_of_answer begun.record, if_pos begun.chart, begun.attempt]
  have idle : begunFor c rest = [] :=
    List.filterMap_eq_nil_iff.2 fun k member => Option.not_isSome_iff_eq_none.1 (quiet k member)
  exact ⟨begunFor c first, by rw [begunFor_append, begunFor_cons now, idle]⟩

/-- Where every attempt has a number of its own, the newest one is known by it. -/
theorem BegunLast.record_eq {a : AttemptId} {b : Moment} {later : History} {r s : AttemptRecord}
    (begun : BegunLast c a b i r (earlier ++ m :: later))
    (apart : (begunFor c (earlier ++ m :: later)).Nodup) (record : m.reply.answer.begun? = some s)
    (chart : s.chart = c) (number : s.attempt = a) : r = s := by
  have now : m.begun? c = some a := by
    rw [Moment.begun?_of_answer record, if_pos chart, number]
  have place : begunFor c (earlier ++ m :: later) = begunFor c earlier ++ a :: begunFor c later := by
    rw [begunFor_append, begunFor_cons now]
  obtain ⟨older, last⟩ := begun.ids
  -- Numbers are not given twice, so nothing has begun since the moment.
  have unfollowed : begunFor c later = [] :=
    eq_nil_of_nodup_of_last (place ▸ apart) (place.symm.trans last)
  have silent : ∀ k ∈ later, ¬ (k.begun? c).isSome := fun k member =>
    Option.not_isSome_iff_eq_none.2 (List.filterMap_eq_nil_iff.1 unfollowed k member)
  have newest : Since (· = m) (fun k => (k.begun? c).isSome) (earlier ++ m :: later) :=
    ⟨earlier, m, later, rfl, rfl, silent⟩
  obtain rfl : b = m := since_unique begun.newest newest begun.isSome (by rw [now]; rfl)
  exact Option.some.inj (begun.record.symm.trans record)

/-- An attempt that is completed hands the sink something exactly if it brought a new query result when it
began. -/
theorem handed_eq_nil_iff {between : History} {b : Moment} {r : AttemptRecord} {e : Ending}
    (recorded : m.before.Recorded h) (split : h ++ [m] = earlier ++ b :: between)
    (apart : (begunFor r.chart (h ++ [m])).Nodup) (begun : b.reply.answer.begun? = some r)
    (completed : m.completion? = some ⟨r.chart, r.attempt, e⟩) :
    m.handed = [] ↔ r.resultChanged = false := by
  have owes : Owed h m m.handed := owed recorded
  generalize m.handed = log at owes ⊢
  cases owes with
  | nothing idle =>
    rw [completed] at idle
    exact nomatch idle
  | untimed x n i s done newest same =>
    obtain rfl := Option.some.inj (completed.symm.trans done)
    rw [split] at newest apart
    obtain rfl : s = r := newest.record_eq apart begun rfl rfl
    simp [same]
  | timed x n i s done newest changed =>
    obtain rfl := Option.some.inj (completed.symm.trans done)
    rw [split] at newest apart
    obtain rfl : s = r := newest.record_eq apart begun rfl rfl
    simp [changed]

/-! ## Runs -/

variable {registry : Registry} {namer : ClassNamer} {clock : Clock} {sink : TelemetrySink}
  {hooks : Hooks}

/-- An attempt that begins after a run hands the sink something, whenever it is completed, exactly if it brings
a new query result. -/
theorem handed_of_attempt {ops rest : List Operation} {op : Operation} {r : AttemptRecord} {e : Ending}
    (few : (begunFor r.chart ((Dashboard.new registry namer clock sink hooks).history
      (ops ++ op :: rest))).length < UInt64.size)
    (begun : (((Dashboard.new registry namer clock sink hooks).after ops).step op).2.answer.begun? = some r)
    (member : m ∈ ((Dashboard.new registry namer clock sink hooks).after ops).history (op :: rest))
    (completed : m.completion? = some ⟨r.chart, r.attempt, e⟩) :
    m.handed = [] ↔ r.resultChanged = false := by
  generalize fresh : Dashboard.new registry namer clock sink hooks = start at few begun member
  obtain ⟨first, later, same, before⟩ := Dashboard.exists_run_before member
  rw [← Dashboard.after_append] at before
  have present : start.history (ops ++ (first ++ [m.op])) = start.history (ops ++ first) ++ [m] := by
    rw [← List.append_assoc, Dashboard.history_snoc, ← before]
  obtain ⟨between, split⟩ : ∃ between,
      start.history (ops ++ (first ++ [m.op])) = start.history ops ++ ⟨start.after ops, op⟩ :: between := by
    rw [Dashboard.history_append]
    cases first with
    | nil =>
      obtain ⟨rfl, -⟩ := List.cons.inj same
      exact ⟨[], rfl⟩
    | cons o first =>
      obtain ⟨rfl, -⟩ := List.cons.inj same
      exact ⟨_, rfl⟩
  have recorded : m.before.Recorded (start.history (ops ++ first)) := by
    rw [before, ← fresh]
    exact Dashboard.Recorded.run (ops ++ first)
  have apart : (begunFor r.chart (start.history (ops ++ (first ++ [m.op])))).Nodup := by
    have whole : ops ++ op :: rest = (ops ++ (first ++ [m.op])) ++ later := by
      rw [same, List.append_assoc, List.append_assoc, List.singleton_append]
    rw [whole, ← fresh] at few
    rw [← fresh]
    exact Numbering.nodup few
  rw [present] at split apart
  exact handed_eq_nil_iff recorded split apart begun completed

/-- Take any run, and an attempt that begins after it to draw an input. The attempt brings a new query result
exactly if the input carries another one, or none, than the input of the attempt that began before it, since
the chart was last removed or forgotten; where there is no such attempt, exactly if the input carries one at
all. Whenever the attempt is completed, the telemetry sink is handed something exactly if it brought a new
result. If the chart is driven through its inputs and the last one has begun an attempt as well, the gate has
compared the same two inputs: the attempt brings a new result exactly if the query result is among the changed
topics, and a change is cosmetic exactly if the attempt brings none. -/
theorem result_change_compares_attempts (registry : Registry) (namer : ClassNamer) (clock : Clock)
    (sink : TelemetrySink) (hooks : Hooks) (ops : List Operation) (op : Operation) (i : RenderInput)
    (r : AttemptRecord) :
    let start := Dashboard.new registry namer clock sink hooks
    let d := start.after ops
    let h := start.history ops
    op.input? = some i → (d.step op).2.answer.begun? = some r →
    (∀ j, DrawnLast i.chart j h → (r.resultChanged = true ↔ i.resultIdentity? ≠ j.resultIdentity?)) ∧
    ((∀ j, ¬ DrawnLast i.chart j h) → (r.resultChanged = true ↔ i.resultIdentity? ≠ none)) ∧
    (∀ rest, (begunFor i.chart (start.history (ops ++ op :: rest))).length < UInt64.size →
      ∀ m ∈ d.history (op :: rest), ∀ e, m.completion? = some ⟨i.chart, r.attempt, e⟩ →
        (m.handed = [] ↔ r.resultChanged = false)) ∧
    ∀ last, (∀ o ∈ ops ++ [op], o.ThroughInputs i.chart) → StartedLast i.chart last h →
      let decision := evaluateRedraw d.registry last ⟨i, d.board.snapshot i.chart⟩
      d.decision? i = some decision ∧
      r.resultChanged = (changedTopics last.input i).contains .queryResult ∧
      ∀ topics, decision = .changed topics → topics.isCosmetic = !r.resultChanged := by
  intro start d h input begun
  have k : d.KeepsResult i.chart h := Dashboard.KeepsResult.run i.chart ops
  obtain rfl : r = d.nextRecord i := eq_nextRecord_of_begun (m := ⟨d, op⟩) input begun
  refine ⟨fun j drawn => ?_, fun undrawn => ?_, ?_, ?_⟩
  · rw [Dashboard.resultChanged_iff, k.drawn j drawn]
    rfl
  · rw [Dashboard.resultChanged_iff, k.undrawn undrawn]
    rfl
  · intro rest few m member e completed
    exact handed_of_attempt few begun member completed
  · intro last through started decision
    have driven : ∀ m ∈ h, m.op.ThroughInputs i.chart := fun m member =>
      through m.op (List.mem_append_left _ (Dashboard.op_mem_of_mem_history member))
    have seen : d.seen.get? i.chart = some last :=
      (Remembers.run i.chart ops last).2 started.lastSubmission
    have same : (d.nextRecord i).resultChanged = (changedTopics last.input i).contains .queryResult := by
      rw [contains_changedTopics, Dashboard.resultChanged_nextRecord, k.drawn _ (started.drawnLast driven)]
      rfl
    refine ⟨?_, same, fun topics changed => ?_⟩
    · unfold Dashboard.decision?
      rw [seen]
      rfl
    · obtain ⟨rfl, some⟩ := topics_of_changed changed
      rw [RedrawTopics.isCosmetic, some, same]
      rfl

/-- A chart that was drawn with its results is drawn again in another size. -/
theorem resized_chart_brings_no_result :
    let i := RenderInput.loaded ⟨7⟩
    let wide : RenderInput := { RenderInput.loaded ⟨7⟩ with viewport := ⟨800, 480⟩ }
    let ops : List Operation :=
      [.setStatus ⟨7⟩ (some .success), .submit i, .complete ⟨7⟩ ⟨1⟩ .success]
    let d := Dashboard.blank.after ops
    let h := Dashboard.blank.history ops
    ∃ r, (d.step (.submit wide)).2.answer = .submitted (.started r) ∧ DrawnLast ⟨7⟩ i h ∧
      StartedLast ⟨7⟩ ⟨i, .plain .success⟩ h ∧ r.resultChanged = false ∧
      (changedTopics i wide).isCosmetic = true := by
  intro i wide ops d h
  let m : Moment := ⟨Dashboard.blank.after (ops.take 1), .submit i⟩
  have submits : m.Submits ⟨7⟩ ⟨i, .plain .success⟩ := ⟨rfl, rfl, rfl⟩
  have drawn : DrawnLast ⟨7⟩ i h := by
    refine ⟨h.take 1, m, h.drop 2, rfl, ⟨rfl, rfl, rfl⟩, fun n later => ?_⟩
    obtain rfl := List.mem_singleton.1 later
    rintro (begun | ⟨⟨⟩⟩)
    exact nomatch begun
  have started : StartedLast ⟨7⟩ ⟨i, .plain .success⟩ h := by
    refine ⟨h.take 1, m, h.drop 2, rfl, ⟨submits, rfl⟩, fun n later => ?_⟩
    obtain rfl := List.mem_singleton.1 later
    rintro (⟨newer, ⟨⟩, -⟩ | ⟨⟨⟩⟩)
  have through : ∀ o ∈ ops ++ [.submit wide], o.ThroughInputs ⟨7⟩ := by
    simp [ops, Operation.ThroughInputs, Operation.Submitted]
  have begun : (d.step (.submit wide)).2.answer = .submitted (.started (d.nextRecord wide)) := by
    simp only [d, ops, wide, i]
    rfl
  obtain ⟨-, -, -, agree⟩ := result_change_compares_attempts ∅ .default { epoch := 0 } .recording {} ops
    (.submit wide) wide (d.nextRecord wide) rfl (congrArg Answer.begun? begun)
  obtain ⟨-, changed, cosmetic⟩ := agree ⟨i, .plain .success⟩ through started
  have same : (d.nextRecord wide).resultChanged = false := by
    rw [changed]
    decide
  have decided : evaluateRedraw d.registry ⟨i, .plain .success⟩ ⟨wide, d.board.snapshot ⟨7⟩⟩ =
      .changed (changedTopics i wide) := by
    decide
  refine ⟨d.nextRecord wide, begun, drawn, started, same, ?_⟩
  rw [cosmetic _ decided, same]
  rfl

end Redraw
