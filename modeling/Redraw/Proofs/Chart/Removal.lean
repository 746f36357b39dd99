import Redraw.Proofs.Chart.Renumbering
import Redraw.Proofs.Gate.LastSubmission

/-!
# Removal forgets everything but the number

A chart that was removed leaves the number of its newest attempt behind and nothing else. Whatever is done
to it afterwards goes as on a dashboard that has never met the chart, with all its attempts numbered from
there. Both runs are carried out side by side on dashboards that differ in the numbers only. Removing
itself says whether there was anything to remove.
-/

namespace Redraw

/-- An attempt of the chart begins at the moment, or the chart is submitted. -/
def Moment.Meets (m : Moment) (c : ChartId) : Prop :=
  (m.begun? c).isSome ∨ ∃ s, m.Submits c s

/-- The dashboard is reached by a run that has never met the chart. -/
inductive Dashboard.Unaware (c : ChartId) : Dashboard → Prop where
  | run (registry : Registry) (namer : ClassNamer) (clock : Clock) (sink : TelemetrySink) (hooks : Hooks)
      (ops : List Operation)
      (unmet : ∀ m ∈ (new registry namer clock sink hooks).history ops, ¬ m.Meets c) :
      Unaware c ((new registry namer clock sink hooks).after ops)

/-- The second dashboard has never met the chart. It has the strategies, the class names and the clock of
the first one, and its board holds the same about the chart. -/
structure Dashboard.Stranger (c : ChartId) (d e : Dashboard) : Prop where
  unaware : e.Unaware c
  registry : e.registry = d.registry
  namer : e.namer = d.namer
  clock : e.clock = d.clock
  entry : e.board.get? c = d.board.get? c

/-- Two moments of two runs show the same of a chart, up to the numbers of its attempts. -/
structure Moment.Parallel (c : ChartId) (n : Nat) (m m' : Moment) : Prop where
  op : m'.op = m.op.later c n
  answer : m.op.chart? = some c → m'.reply.answer = m.reply.answer.later n
  telemetry : m'.handed.filter (·.chart = c) = m.handed.filter (·.chart = c)
  events : m'.reply.events.filter (·.chart = c) =
    (m.reply.events.filter (·.chart = c)).map (·.later n)
  phase : m'.after.phase c = (m.after.phase c).later n
  active : m'.after.active? c = (m.after.active? c).map (·.later n)
  latest : m'.after.latest? c = (m.after.latest? c).map (·.later n)
  entry : m'.after.board.get? c = m.after.board.get? c

/-- The dashboard has something to remove about the chart. -/
def Dashboard.Holds (d : Dashboard) (c : ChartId) : Prop :=
  (d.tracks.get? c).isSome ∨ (d.seen.get? c).isSome

namespace Outcome.Renumbered

variable {α β : Type} {c : ChartId} {n : Nat} {f : α → α} {o p : Outcome α}

/-- Answers follow what the actions return. -/
theorem map (k : Renumbered c n f o p) {g : α → β} {f' : β → β} (commutes : ∀ x, g (f x) = f' (g x)) :
    Renumbered c n f' { o with value := g o.value } { p with value := g p.value } :=
  ⟨(congrArg g k.value).trans (commutes o.value), k.dashboard, k.telemetry, k.events⟩

end Outcome.Renumbered

namespace Dashboard

variable {c j : ChartId} {n : Nat} {d e : Dashboard} {op op' : Operation}

/-! ## One moment of both runs -/

/-- What is done to the chart goes the same way on both dashboards. -/
theorem renumbered_perform (k : d.Renumbered c n e) (own : op.chart? = some c) :
    (d.perform op).Renumbered c n (·.later n) (e.perform (op.later c n)) := by
  cases op with
  | setStatus j _ | setOverlay j _ | setAlert j _ | signalSuccess j | signalFailure j _ _ =>
    obtain rfl : j = c := Option.some.inj own
    exact ⟨rfl, k.update _, rfl, rfl⟩
  | submit i =>
    obtain rfl : i.chart = c := Option.some.inj own
    exact (renumbered_submit k).map fun _ => rfl
  | begin i =>
    obtain rfl : i.chart = c := Option.some.inj own
    exact (renumbered_begin k).map fun _ => rfl
  | buildRequest i a =>
    obtain rfl : i.chart = c := Option.some.inj own
    have registry : d.registry = e.registry := k.rest.registry
    have namer : d.namer = e.namer := k.rest.namer
    refine ⟨?_, k, rfl, rfl⟩
    simp only [Operation.later, if_true, perform, drawRequest, registry, namer]
    rfl
  | complete j a x =>
    obtain rfl : j = c := Option.some.inj own
    simp only [Operation.later, if_true]
    exact (renumbered_complete k a x).map fun _ => rfl
  | completeRecord r x =>
    obtain rfl : r.chart = c := Option.some.inj own
    simp only [Operation.later, if_true]
    exact (renumbered_complete k r.attempt x).map fun _ => rfl
  | remove j =>
    obtain rfl : j = c := Option.some.inj own
    exact (renumbered_remove k).map fun _ => rfl
  | forget j =>
    obtain rfl : j = c := Option.some.inj own
    exact (renumbered_forget k).map fun _ => rfl
  | inspect j => exact ⟨rfl, k, rfl, rfl⟩
  | _ => cases own

/-- What is addressed to no chart keeps the numbers apart as they are. -/
theorem renumbered_shared (k : d.Renumbered c n e) (shared : op.chart? = none) :
    (d.step op).1.Renumbered c n (e.step op).1 := by
  cases op with
  | setClock time =>
    exact { k with rest := { k.rest with clock := congrArg (·.set time) k.rest.clock } }
  | advanceClock time =>
    exact { k with rest := { k.rest with clock := congrArg (·.advance time) k.rest.clock } }
  | addObserver id =>
    obtain ⟨_, _, -, left⟩ := d.addObserver_outcome id
    obtain ⟨_, _, -, right⟩ := e.addObserver_outcome id
    have left : (d.step (.addObserver id)).1 = _ := congrArg Outcome.dashboard left
    have right : (e.step (.addObserver id)).1 = _ := congrArg Outcome.dashboard right
    rw [left, right]
    exact ⟨k.rest, k.tracks, k.track⟩
  | addStrategy v s =>
    have registry : d.registry = e.registry := k.rest.registry
    show Renumbered c n
      (d.unlessRefused ((d.registry.register v s).map fun r => { d with registry := r })).dashboard
      (e.unlessRefused ((e.registry.register v s).map fun r => { e with registry := r })).dashboard
    rw [registry]
    cases e.registry.register v s with
    | error fault => exact k
    | ok r => exact ⟨{ k.rest with registry := rfl }, k.tracks, k.track⟩
  | removeStrategy v =>
    exact { k with
      rest := { k.rest with registry := congrArg (fun r => (r.unregister v).1) k.rest.registry } }
  | removeObserver _ | setHooks _ | takePending => exact ⟨k.rest, k.tracks, k.track⟩
  | findObserver _ | describeHooks | callHook _ | listPending | lastRequest => exact k
  | _ => exact nomatch shared

/-- Where the dashboards differ in the numbers only, so does what is shown of the chart. -/
theorem parallel_of_renumbered (renamed : op' = op.later c n)
    (next : (d.step op).1.Renumbered c n (e.step op').1)
    (answer : op.chart? = some c → (e.step op').2.answer = (d.step op).2.answer.later n)
    (telemetry : (e.perform op').emitted.telemetry.filter (·.chart = c) =
      (d.perform op).emitted.telemetry.filter (·.chart = c))
    (events : (e.step op').2.events.filter (·.chart = c) =
      ((d.step op).2.events.filter (·.chart = c)).map (·.later n)) :
    Moment.Parallel c n ⟨d, op⟩ ⟨e, op'⟩ where
  op := renamed
  answer := answer
  telemetry := telemetry
  events := events
  phase := next.phase_eq
  active := next.active_eq
  latest := next.latest_eq
  entry := next.rest.board.symm

theorem parallel_own (k : d.Renumbered c n e) (own : op.chart? = some c) :
    Moment.Parallel c n ⟨d, op⟩ ⟨e, op.later c n⟩ ∧
      (d.step op).1.Renumbered c n (e.step (op.later c n)).1 := by
  have same := renumbered_perform k own
  have events : (e.step (op.later c n)).2.events = (d.step op).2.events.map (·.later n) := same.events
  refine ⟨parallel_of_renumbered rfl same.dashboard (fun _ => same.value) ?_ ?_, same.dashboard⟩
  · rw [same.telemetry]
  · rw [events, List.filter_map]
    simp only [Function.comp_def, LifecycleEvent.chart_later]

theorem parallel_shared (k : d.Renumbered c n e) (shared : op.chart? = none) :
    Moment.Parallel c n ⟨d, op⟩ ⟨e, op.later c n⟩ ∧
      (d.step op).1.Renumbered c n (e.step (op.later c n)).1 := by
  have foreign : op.chart? ≠ some c := by simp [shared]
  have quiet : op.isQuiet = true := Operation.isQuiet_of_shared shared
  have telemetry (f : Dashboard) : (f.perform op).emitted.telemetry = [] :=
    Moment.handed_of_isQuiet f quiet
  have events (f : Dashboard) : (f.step op).2.events = [] := (Moment.quiet_of_isQuiet f quiet).events
  have next := renumbered_shared k shared
  have same : op.later c n = op := Operation.later_eq_self n foreign
  rw [same]
  refine ⟨parallel_of_renumbered same.symm next (fun own => absurd own foreign) ?_ ?_, next⟩
  · rw [telemetry, telemetry]
  · rw [events, events]
    rfl

/-- What is addressed to another chart may go differently, but nothing of it is about this one. -/
theorem parallel_other (k : d.Renumbered c n e) (left : d.Consistent) (right : e.Consistent)
    (addressed : op.chart? = some j) (other : j ≠ c) :
    Moment.Parallel c n ⟨d, op⟩ ⟨e, op.later c n⟩ ∧
      (d.step op).1.Renumbered c n (e.step (op.later c n)).1 := by
  have foreign : op.chart? ≠ some c := by simp [addressed, other]
  have leftSpared := spares_perform left addressed other
  have rightSpared := spares_perform right addressed other
  have next : (d.step op).1.Renumbered c n (e.step op).1 :=
    k.of_agree leftSpared.agree rightSpared.agree
  have same : op.later c n = op := Operation.later_eq_self n foreign
  rw [same]
  refine ⟨parallel_of_renumbered same.symm next (fun own => absurd own foreign) ?_ ?_, next⟩
  · rw [leftSpared.filter_telemetry, rightSpared.filter_telemetry]
  · exact rightSpared.filter_events.trans (congrArg (List.map _) leftSpared.filter_events).symm

theorem parallel_step (k : d.Renumbered c n e) (left : d.Consistent) (right : e.Consistent)
    (op : Operation) :
    Moment.Parallel c n ⟨d, op⟩ ⟨e, op.later c n⟩ ∧
      (d.step op).1.Renumbered c n (e.step (op.later c n)).1 := by
  rcases op.addressee c with shared | own | ⟨j, addressed, other⟩
  · exact parallel_shared k shared
  · exact parallel_own k own
  · exact parallel_other k left right addressed other

/-- Dashboards that differ in the numbers of a chart show the same of it in every run, up to the
numbers. The induction is on the run. -/
theorem parallel_run (k : d.Renumbered c n e) (left : d.Consistent) (right : e.Consistent)
    (ops : List Operation) :
    List.Forall₂ (Moment.Parallel c n) (d.history ops) (e.history (ops.map (·.later c n))) := by
  induction ops generalizing d e with
  | nil => exact .nil
  | cons op rest ih =>
    obtain ⟨parallel, next⟩ := parallel_step k left right op
    exact .cons parallel (ih next (left.step op) (right.step _))

/-! ## What removal leaves behind -/

/-- Without a track, all that counts is the number that the chart resumes after. -/
theorem track_eq_resumingAfter (unknown : d.tracks.get? c = none) :
    d.track c = .resumingAfter (d.track c).latest := by
  rw [track_of_unknown unknown]
  cases d.retired.get? c <;> rfl

theorem Unaware.consistent (k : d.Unaware c) : d.Consistent := by
  obtain ⟨registry, namer, clock, sink, hooks, ops, unmet⟩ := k
  exact consistent_after ops

/-- What has never met a chart holds nothing about it. -/
theorem Unaware.unknown (k : d.Unaware c) :
    d.tracks.get? c = none ∧ d.retired.get? c = none ∧ d.seen.get? c = none := by
  obtain ⟨registry, namer, clock, sink, hooks, ops, unmet⟩ := k
  have numbering : Numbering c _ ((new registry namer clock sink hooks).after ops) := Numbering.run ops
  have remembers : Remembers c _ ((new registry namer clock sink hooks).after ops) :=
    Remembers.run c ops
  have unbegun : begunFor c ((new registry namer clock sink hooks).history ops) = [] := by
    refine List.filterMap_eq_nil_iff.2 fun m member => ?_
    exact Option.not_isSome_iff_eq_none.1 fun begun => unmet m member (.inl begun)
  obtain ⟨track, retired⟩ := numbering.none_iff.1 unbegun
  refine ⟨track, retired, Option.eq_none_iff_forall_ne_some.2 fun s seen => ?_⟩
  obtain ⟨earlier, m, later, split, submitted, -⟩ := (remembers s).1 seen
  exact unmet m (by simp [split]) (.inr ⟨s, submitted⟩)

end Dashboard

namespace Moment

variable {m : Moment} {c : ChartId}

theorem begun?_of_removes (leaves : m.Removes c) : m.begun? c = none := by
  cases m.move c with
  | begins _ _ _ _ _ stays _ _ => exact absurd leaves stays
  | settles _ _ _ _ _ begun _ _ _ _ => exact begun
  | forgets _ _ begun _ _ _ _ => exact begun
  | rests begun _ _ _ _ => exact begun

theorem track_of_removes (leaves : m.Removes c) : m.after.tracks.get? c = none := by
  cases m.move c with
  | begins _ _ _ _ _ stays _ _ => exact absurd leaves stays
  | settles _ _ _ _ _ _ _ stays _ _ => exact absurd leaves stays
  | forgets _ _ _ _ _ track _ => exact track
  | rests _ _ absent track _ => rw [track, absent leaves]

/-- A chart that stays has a track once an attempt has begun. -/
theorem track_of_stays (stays : ¬ m.Removes c) :
    (m.after.tracks.get? c).isSome ↔ (m.begun? c).isSome ∨ (m.before.tracks.get? c).isSome := by
  cases m.move c with
  | begins _ _ _ begun _ _ track _ => simp [track, begun]
  | settles t _ _ known _ begun _ _ track _ => simp [track, begun, known]
  | forgets _ _ _ _ leaves _ _ => exact absurd leaves stays
  | rests begun _ _ track _ => simp [track, begun]

/-- A chart that is not removed is remembered once it is submitted. -/
theorem seen_of_stays (stays : m.op ≠ .remove c) :
    (m.after.seen.get? c).isSome ↔ (∃ s, m.Submits c s) ∨ (m.before.seen.get? c).isSome := by
  cases m.recollection c with
  | submits s submitted seen => simp [seen, Exists.intro s submitted]
  | discards removed _ => exact absurd removed stays
  | keeps silent _ seen => simp [seen, silent]

theorem seen_of_removed (removed : m.op = .remove c) : m.after.seen.get? c = none := by
  cases m.recollection c with
  | submits s submitted _ => exact nomatch removed.symm.trans submitted.1
  | discards _ seen => exact seen
  | keeps _ stays _ => exact absurd removed stays

end Moment

namespace Dashboard

variable {c : ChartId} {n : Nat} {d e : Dashboard}

/-- A removed chart is a stranger to its dashboard but for the number of its newest attempt. -/
theorem Stranger.renumbered {h : History} (k : Stranger c d e) (numbering : Numbering c h d) :
    e.Renumbered c (begunFor c h).length (d.step (.remove c)).1 := by
  have leaves : (⟨d, .remove c⟩ : Moment).Removes c := rfl
  have unknown : (d.step (.remove c)).1.tracks.get? c = none := Moment.track_of_removes leaves
  have counted : Numbering c (h ++ [⟨d, .remove c⟩]) (d.step (.remove c)).1 :=
    Numbering.step (m := ⟨d, .remove c⟩) numbering
  have latest : ((d.step (.remove c)).1.track c).latest = .nth (begunFor c h).length := by
    rw [counted.latest, begunFor_rest (Moment.begun?_of_removes leaves)]
  obtain ⟨new, unretired, first⟩ := k.unaware.unknown
  constructor
  · obtain ⟨tracks, retired, outcome⟩ := d.remove_outcome c
    have after : (d.step (.remove c)).1 = { d with tracks, retired, seen := d.seen.erase c } :=
      congrArg Outcome.dashboard outcome
    have unseen : (d.seen.erase c).get? c = none := by simp
    rw [after]
    exact ⟨k.registry, k.namer, k.clock, rfl, rfl, rfl, k.entry, rfl, rfl, first.trans unseen.symm, rfl⟩
  · rw [unknown, new]
    rfl
  · rw [track_eq_resumingAfter unknown, latest, track_of_unknown new, unretired]
    simp [Track.later, Track.fresh, Track.resumingAfter, AttemptId.later, AttemptId.nth, Phase.later]

/-- Where a chart is never forgotten on its own, there is something to remove about it exactly if it was
submitted or an attempt of it began since it was last removed. -/
theorem holds_step {h : History} {m : Moment} (kept : m.op ≠ .forget c)
    (k : m.before.Holds c ↔ Since (·.Meets c) (·.op = .remove c) h) :
    m.after.Holds c ↔ Since (·.Meets c) (·.op = .remove c) (h ++ [m]) := by
  rw [since_snoc, ← k]
  unfold Holds Moment.Meets
  -- Removing takes everything away. Any other operation only adds to what there is, as forgetting is
  -- left out.
  by_cases removed : m.op = .remove c
  · have leaves : m.Removes c := by
      unfold Moment.Removes
      rw [removed]
      rfl
    have unsubmitted : ¬ ∃ s, m.Submits c s := fun ⟨s, submitted⟩ =>
      nomatch removed.symm.trans submitted.1
    simp [Moment.track_of_removes leaves, Moment.seen_of_removed removed,
      Moment.begun?_of_removes leaves, removed, unsubmitted]
  · have stays : ¬ m.Removes c := fun leaves =>
      (Operation.eq_of_removed leaves).elim removed kept
    rw [Moment.track_of_stays stays, Moment.seen_of_stays removed]
    tauto

variable {registry : Registry} {namer : ClassNamer} {clock : Clock} {sink : TelemetrySink}
  {hooks : Hooks}

theorem holds_iff (ops : List Operation)
    (kept : ∀ m ∈ (new registry namer clock sink hooks).history ops, m.op ≠ .forget c) :
    ((new registry namer clock sink hooks).after ops).Holds c ↔
      Since (·.Meets c) (·.op = .remove c) ((new registry namer clock sink hooks).history ops) := by
  refine run_induction
    (I := fun h d => (∀ m ∈ h, m.op ≠ .forget c) →
      (d.Holds c ↔ Since (·.Meets c) (·.op = .remove c) h)) ?_ ?_ ops kept
  · intro _
    simp [Holds, new, not_since_nil]
  · intro h e op k kept
    exact holds_step (kept ⟨e, op⟩ (by simp)) (k fun m member => kept m (by simp [member]))

/-- Removing answers whether there is something to remove. -/
theorem answer_remove (d : Dashboard) (c : ChartId) :
    ∃ b, (d.step (.remove c)).2.answer = .flag b ∧ (b = true ↔ d.Holds c) := by
  obtain ⟨tracks, retired, outcome⟩ := d.remove_outcome c
  have answer : (d.step (.remove c)).2.answer = .flag (d.remove c).value := rfl
  rw [outcome] at answer
  refine ⟨_, answer, ?_⟩
  rw [Bool.or_eq_true]
  rfl

end Dashboard

/-- Take any run and remove a chart of which it has begun `n` attempts. Whatever is done next goes for the
chart as on a dashboard that has never met it and that has the same strategies, class names and clock and
the same entry on its board, only that every attempt of the chart has a number that is larger by `n`.
Removing the chart answers whether it was submitted or an attempt of it began since it was last removed,
in runs that do not forget it otherwise. -/
theorem removal_forgets_all_but_the_number (registry : Registry) (namer : ClassNamer) (clock : Clock)
    (sink : TelemetrySink) (hooks : Hooks) (ops : List Operation) (c : ChartId) :
    let d := (Dashboard.new registry namer clock sink hooks).after ops
    let h := (Dashboard.new registry namer clock sink hooks).history ops
    let n := (begunFor c h).length
    let removed := (d.step (.remove c)).1
    (∀ e next, Dashboard.Stranger c d e →
      List.Forall₂ (Moment.Parallel c n) (e.history next)
        (removed.history (next.map (·.later c n)))) ∧
    (∀ a : AttemptId, a.raw.toNat + n < UInt64.size → (a.later n).raw.toNat = a.raw.toNat + n) ∧
    ((∀ m ∈ h, m.op ≠ .forget c) →
      ∃ b, (d.step (.remove c)).2.answer = .flag b ∧
        (b = true ↔ Since (·.Meets c) (·.op = .remove c) h)) := by
  intro d h n removed
  have consistent : d.Consistent := Dashboard.consistent_after ops
  have numbering : Numbering c h d := Numbering.run ops
  refine ⟨fun e next stranger => ?_, fun a fits => AttemptId.toNat_later fits, fun kept => ?_⟩
  · have renumbered : e.Renumbered c n removed := stranger.renumbered numbering
    exact Dashboard.parallel_run renumbered stranger.unaware.consistent (consistent.step _) next
  · obtain ⟨b, answer, holds⟩ := d.answer_remove c
    exact ⟨b, answer, holds.trans (Dashboard.holds_iff ops kept)⟩

/-- A chart that was skipped once and drawn once is removed. Its second attempt then goes like the first
one of a chart of which the host only knows that it is rendered. -/
theorem removal_forgets_drawn_chart :
    let ops : List Operation := [.submit (.plain ⟨7⟩), .signalSuccess ⟨7⟩, .begin (.plain ⟨7⟩)]
    let next : List Operation := [.begin (.plain ⟨7⟩), .complete ⟨7⟩ ⟨1⟩ .success, .remove ⟨7⟩]
    let d := Dashboard.blank.after ops
    let e := Dashboard.blank.after [.signalSuccess ⟨7⟩]
    let removed := (d.step (.remove ⟨7⟩)).1
    Dashboard.Stranger ⟨7⟩ d e ∧
      List.Forall₂ (Moment.Parallel ⟨7⟩ 1) (e.history next) (removed.history (next.map (·.later ⟨7⟩ 1))) ∧
      next.map (·.later ⟨7⟩ 1) =
        [.begin (.plain ⟨7⟩), .complete ⟨7⟩ ⟨2⟩ .success, .remove ⟨7⟩] ∧
      ((⟨1⟩ : AttemptId).later 1).raw.toNat = 2 ∧
      ∃ b, (d.step (.remove ⟨7⟩)).2.answer = .flag b ∧
        (b = true ↔ Since (·.Meets ⟨7⟩) (·.op = .remove ⟨7⟩) (Dashboard.blank.history ops)) := by
  intro ops next d e removed
  have unmet : ∀ m ∈ Dashboard.blank.history [.signalSuccess ⟨7⟩], ¬ m.Meets ⟨7⟩ := by
    intro m member
    obtain rfl : m = ⟨Dashboard.blank, .signalSuccess ⟨7⟩⟩ := List.mem_singleton.1 member
    rintro (begun | ⟨s, submitted⟩)
    · exact nomatch begun
    · exact nomatch submitted.1
  have stranger : Dashboard.Stranger ⟨7⟩ d e :=
    ⟨.run _ _ _ _ _ _ unmet, rfl, rfl, rfl, by decide⟩
  have kept : ∀ m ∈ Dashboard.blank.history ops, m.op ≠ .forget ⟨7⟩ := by
    simp [ops]
  have forgets := removal_forgets_all_but_the_number ∅ .default { epoch := 0 } .recording {} ops ⟨7⟩
  exact ⟨stranger, forgets.1 e next stranger, rfl, forgets.2.1 ⟨1⟩ (by decide), forgets.2.2 kept⟩

end Redraw
