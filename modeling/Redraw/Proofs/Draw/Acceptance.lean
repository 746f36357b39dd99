import Mathlib.Data.List.Forall2
import Redraw.Proofs.Attempt.Completions
import Redraw.Proofs.Attempt.Numbering
import Redraw.Proofs.Chart.Independence

/-!
# What the engine accepts

The engine keeps the requests that it accepts until they are taken from it. Whenever that happens, what was
taken and what is kept are together the requests of the attempts that could be drawn, in the order in which
the attempts began. `Moment.Feeding` says what a moment adds to them: one request, or none.
-/

namespace Redraw

/-- The engine can draw the input: it has an area and a type. -/
structure RenderInput.Drawable (i : RenderInput) : Prop where
  width : 0 < i.viewport.width
  height : 0 < i.viewport.height
  typed : i.vizType.tag ≠ ""

/-- An attempt that has begun, and the input that it is to draw. -/
abbrev Draw := RenderInput × AttemptRecord

/-- The request is the one for an attempt: it carries what the input says, and the engine does not refuse
it. -/
structure DrawRequest.Serves (q : DrawRequest) (x : Draw) : Prop where
  chart : q.chart = x.1.chart
  attempt : q.attempt = x.2.attempt
  vizType : q.vizType = x.1.vizType
  viewport : q.viewport = x.1.viewport
  result : q.result = x.1.result
  annotations : q.annotations = x.1.annotations
  datasource : q.datasource = x.1.datasource
  initialValues : q.initialValues = x.1.initialValues
  valid : q.refusal? = none

/-- What the engine refuses is what it cannot draw. -/
theorem RenderInput.refusal?_eq_none {i : RenderInput} : i.refusal? = none ↔ i.Drawable := by
  unfold refusal?
  constructor
  · intro accepted
    split at accepted
    · simp at accepted
    · next valid =>
      split at accepted
      · simp at accepted
      · next named =>
        obtain ⟨width, height⟩ := Viewport.isValid_iff.1 (by simpa using valid)
        exact ⟨width, height, fun missing => named (VizType.isEmpty_iff.2 missing)⟩
  · rintro ⟨width, height, named⟩
    rw [if_neg (by simp [Viewport.isValid_iff, width, height]), if_neg fun missing => named (VizType.isEmpty_iff.1 missing)]

instance (i : RenderInput) : Decidable i.Drawable :=
  decidable_of_iff (i.refusal?.isNone = true) <| by
    rw [Option.isNone_iff_eq_none, RenderInput.refusal?_eq_none]

/-- The attempt that begins at the moment, if the engine can draw its input. -/
def Moment.drawn? (m : Moment) : Option Draw :=
  match m.op.input?, m.reply.answer.begun? with
  | some i, some r => if i.Drawable then some (i, r) else none
  | _, _ => none

/-- The attempt of a chart that begins at the moment, if the engine can draw its input. -/
def Moment.drawnFor? (m : Moment) (c : ChartId) : Option AttemptId :=
  (m.drawn?.filter (·.1.chart = c)).map (·.2.attempt)

/-- The requests that the engine has accepted: those that were taken from it and those that it keeps. -/
def accepted (h : History) (d : Dashboard) : List DrawRequest :=
  h.flatMap (·.reply.answer.requests) ++ d.queue.pending

/-- The attempts of a chart whose requests the engine has accepted. -/
def acceptedFor (c : ChartId) (h : History) (d : Dashboard) : List AttemptId :=
  ((accepted h d).filter (·.chart = c)).map (·.attempt)

/-! ## What the engine keeps -/

namespace Dashboard

/-- A callback has nothing to do with the requests of the engine. -/
theorem complete_queue (d : Dashboard) (c : ChartId) (a : AttemptId) (e : Ending) :
    (d.complete c a e).dashboard.queue = d.queue := by
  obtain ⟨_, _, frame⟩ := d.complete_frame c a e
  rw [frame]

/-- A request is kept exactly if the engine can draw the input. -/
theorem begin_queue (d : Dashboard) (i : RenderInput) :
    (d.begin i).dashboard.queue =
      if i.Drawable then d.queue.accept (d.drawRequest i (d.nextRecord i).attempt) else d.queue := by
  cases refusal : i.refusal? with
  | none =>
    rw [begin_accepted refusal, if_pos (RenderInput.refusal?_eq_none.1 refusal)]
  | some fault =>
    have undrawable : ¬ i.Drawable := by
      rw [← RenderInput.refusal?_eq_none, refusal]
      exact Option.some_ne_none fault
    rw [begin_refused refusal, if_neg undrawable]
    rfl

/-- The request for an attempt to draw what the engine can draw. -/
theorem drawRequest_serves (d e : Dashboard) {i : RenderInput} (drawable : i.Drawable) :
    (d.drawRequest i (e.nextRecord i).attempt).Serves (i, e.nextRecord i) := by
  constructor
  case valid => exact (d.drawRequest_refusal? i _).trans (RenderInput.refusal?_eq_none.2 drawable)
  all_goals rfl

end Dashboard

/-! ## One moment -/

namespace Moment

/-- What a moment adds to the requests that the engine has accepted: the request of the attempt that begins
and can be drawn. -/
structure Feeds (m : Moment) (new : List DrawRequest) : Prop where
  requests : m.reply.answer.requests ++ m.after.queue.pending = m.before.queue.pending ++ new
  serves : List.Forall₂ DrawRequest.Serves new m.drawn?.toList
  started : m.after.queue.started = m.before.queue.started + new.length

variable {m : Moment} {c : ChartId}

theorem drawn?_of_begun {i : RenderInput} {r : AttemptRecord} (input : m.op.input? = some i)
    (begun : m.reply.answer.begun? = some r) :
    m.drawn? = if i.Drawable then some (i, r) else none := by
  unfold drawn?
  rw [input, begun]

theorem drawn?_of_none (begun : m.reply.answer.begun? = none) : m.drawn? = none := by
  unfold drawn?
  rw [begun]
  cases m.op.input? <;> rfl

theorem feeds_nothing (drawn : m.drawn? = none)
    (requests : m.reply.answer.requests ++ m.after.queue.pending = m.before.queue.pending)
    (started : m.after.queue.started = m.before.queue.started) : m.Feeds [] := by
  constructor
  · rw [requests, List.append_nil]
  · rw [drawn]
    exact .nil
  · exact started

theorem feeds_of_begin {i : RenderInput} (input : m.op.input? = some i)
    (begun : m.reply.answer.begun? = some (m.before.begin i).value)
    (requests : m.reply.answer.requests = [])
    (queue : m.after.queue = (m.before.begin i).dashboard.queue) : ∃ new, m.Feeds new := by
  rw [Dashboard.begin_value] at begun
  rw [Dashboard.begin_queue] at queue
  have drawn := drawn?_of_begun input begun
  by_cases drawable : i.Drawable
  · rw [if_pos drawable] at queue drawn
    refine ⟨[m.before.drawRequest i (m.before.nextRecord i).attempt], ?_, ?_, ?_⟩
    · rw [requests, queue]
      rfl
    · rw [drawn]
      exact .cons (m.before.drawRequest_serves m.before drawable) .nil
    · rw [queue]
      rfl
  · rw [if_neg drawable] at queue drawn
    refine ⟨[], feeds_nothing drawn ?_ ?_⟩
    · rw [requests, queue]
      rfl
    · rw [queue]

theorem feeds_of_rest (begun : m.reply.answer.begun? = none)
    (requests : m.reply.answer.requests = []) (queue : m.after.queue = m.before.queue) :
    ∃ new, m.Feeds new := by
  refine ⟨[], feeds_nothing (drawn?_of_none begun) ?_ ?_⟩
  · rw [requests, queue]
    rfl
  · rw [queue]

theorem feeds_of_submit (d : Dashboard) (i : RenderInput) :
    ∃ new, Feeds ⟨d, .submit i⟩ new := by
  have answer : (⟨d, .submit i⟩ : Moment).reply.answer = .submitted (d.submit i).value := rfl
  have after : (⟨d, .submit i⟩ : Moment).after = (d.submit i).dashboard := rfl
  cases d.submission i with
  | withheld decision _ _ outcome =>
    rw [outcome] at answer after
    exact feeds_of_rest (by rw [answer]; rfl) rfl (by rw [after])
  | skipped reason _ _ outcome =>
    rw [outcome] at answer after
    exact feeds_of_rest (by rw [answer]; rfl) rfl (by rw [after])
  | started _ _ outcome =>
    rw [outcome] at answer after
    exact feeds_of_begin (i := i) rfl (by rw [answer]; rfl) rfl (by rw [after])

/-- Every moment feeds the engine what begins and can be drawn. -/
theorem feeds (m : Moment) : ∃ new, m.Feeds new := by
  obtain ⟨d, op⟩ := m
  cases op with
  | submit i => exact feeds_of_submit d i
  | begin i => exact feeds_of_begin (i := i) rfl rfl rfl rfl
  | complete c a e => exact feeds_of_rest rfl rfl (d.complete_queue c a e)
  | completeRecord r e => exact feeds_of_rest rfl rfl (d.complete_queue r.chart r.attempt e)
  | remove c =>
    obtain ⟨_, _, outcome⟩ := d.remove_outcome c
    exact feeds_of_rest rfl rfl (congrArg (·.dashboard.queue) outcome)
  | forget c =>
    obtain ⟨_, _, outcome⟩ := d.forget_outcome c
    exact feeds_of_rest rfl rfl (congrArg (·.dashboard.queue) outcome)
  | addObserver id =>
    obtain ⟨_, _, -, outcome⟩ := d.addObserver_outcome id
    have quiet : Quiet ⟨d, .addObserver id⟩ := quiet_of_isQuiet d rfl
    exact feeds_of_rest quiet.begun (d.requests_eq_nil (by simp))
      (congrArg (·.dashboard.queue) outcome)
  | addStrategy v s =>
    obtain ⟨_, _, -, outcome⟩ := d.addStrategy_outcome v s
    have quiet : Quiet ⟨d, .addStrategy v s⟩ := quiet_of_isQuiet d rfl
    exact feeds_of_rest quiet.begun (d.requests_eq_nil (by simp))
      (congrArg (·.dashboard.queue) outcome)
  | takePending => exact ⟨[], feeds_nothing rfl (List.append_nil _) rfl⟩
  | _ => exact feeds_of_rest rfl rfl rfl

/-- The requests that a moment adds for a chart are those of its attempt. -/
theorem Feeds.attempts {new : List DrawRequest} (fed : m.Feeds new) (c : ChartId) :
    (new.filter (·.chart = c)).map (·.attempt) = (m.drawnFor? c).toList := by
  have serves := fed.serves
  unfold drawnFor?
  cases drawn : m.drawn? with
  | none =>
    rw [drawn] at serves
    cases serves
    rfl
  | some x =>
    rw [drawn] at serves
    cases serves with
    | cons first rest =>
      cases rest
      by_cases own : x.1.chart = c <;> simp [Option.filter, first.chart, first.attempt, own]

theorem of_drawn? {x : Draw} (drawn : m.drawn? = some x) :
    x.1.Drawable ∧ m.op.input? = some x.1 ∧ m.reply.answer.begun? = some x.2 := by
  unfold drawn? at drawn
  split at drawn
  · next i r input begun =>
    obtain ⟨drawable, same⟩ := Option.ite_none_right_eq_some.1 drawn
    obtain rfl := Option.some.inj same
    exact ⟨drawable, input, begun⟩
  · exact nomatch drawn

/-- What is drawn for a chart is begun for it. -/
theorem begun?_of_drawnFor? {a : AttemptId} (drawn : m.drawnFor? c = some a) :
    m.begun? c = some a := by
  obtain ⟨x, picked, attempt⟩ := Option.map_eq_some_iff.1 drawn
  obtain ⟨drawn, own⟩ := Option.filter_eq_some_iff.1 picked
  obtain ⟨-, input, begun⟩ := of_drawn? drawn
  have chart : x.2.chart = x.1.chart := congrArg AttemptRecord.chart (eq_nextRecord_of_begun input begun)
  rw [begun?_of_answer begun, if_pos (chart.trans (of_decide_eq_true own)), attempt]

/-- An attempt that begins and is outstanding is drawn. -/
theorem drawnFor?_of_active {i : RenderInput} {r : AttemptRecord} (input : m.op.input? = some i)
    (own : i.chart = c) (begun : m.begun? c = some (m.before.nextRecord i).attempt)
    (active : (m.before.begunTrack i).active = some r) : m.drawnFor? c = some r.attempt := by
  obtain ⟨s, answer, -, -⟩ := answer_of_begun? begun
  obtain rfl := eq_nextRecord_of_begun input answer
  obtain rfl := eq_nextRecord_of_active active
  have drawable : i.Drawable := by
    by_contra refused
    have failed := (m.before.active_begunTrack i).2
      (Option.isSome_iff_ne_none.2 fun none => refused (RenderInput.refusal?_eq_none.1 none))
    rw [active] at failed
    exact nomatch failed
  unfold drawnFor?
  rw [drawn?_of_begun input answer, if_pos drawable, Option.filter_some, if_pos (decide_eq_true own)]
  rfl

end Moment

/-! ## Runs -/

/-- The engine has accepted the requests of the attempts that it can draw, and the outstanding attempt of a
chart is the last of them. -/
structure Acceptance (h : History) (d : Dashboard) : Prop where
  serves : List.Forall₂ DrawRequest.Serves (accepted h d) (h.filterMap (·.drawn?))
  started : d.queue.started = (accepted h d).length
  begun : ∀ c, (acceptedFor c h d).Sublist (begunFor c h)
  newest : ∀ c r, d.active? c = some r → (acceptedFor c h d).getLast? = some r.attempt

section Moments

variable {h : History} {m : Moment} {new : List DrawRequest}

theorem accepted_snoc (fed : m.Feeds new) :
    accepted (h ++ [m]) m.after = accepted h m.before ++ new := by
  unfold accepted
  rw [List.flatMap_append, List.flatMap_singleton, List.append_assoc, fed.requests,
    List.append_assoc]

theorem acceptedFor_snoc (c : ChartId) (h : History) (m : Moment) :
    acceptedFor c (h ++ [m]) m.after = acceptedFor c h m.before ++ (m.drawnFor? c).toList := by
  obtain ⟨new, fed⟩ := m.feeds
  unfold acceptedFor
  rw [accepted_snoc fed, List.filter_append, List.map_append, fed.attempts]

/-- The outstanding attempt of a chart is drawn at the moment, or outstanding already. -/
theorem Moment.active_after {c : ChartId} {r : AttemptRecord} (active : m.after.active? c = some r) :
    m.drawnFor? c = some r.attempt ∨ m.drawnFor? c = none ∧ m.before.active? c = some r := by
  unfold Dashboard.active? at active ⊢
  cases m.move c with
  | begins i input own begun _ _ track _ =>
    rw [track, Option.bind_some] at active
    exact .inl (drawnFor?_of_active input own begun active)
  | settles t s e _ _ _ _ _ track _ =>
    rw [track] at active
    exact nomatch active
  | forgets t _ _ _ _ track _ =>
    rw [track] at active
    exact nomatch active
  | rests begun _ _ track _ =>
    rw [track] at active
    refine .inr ⟨?_, active⟩
    rw [Option.eq_none_iff_forall_ne_some]
    intro a drawn
    rw [begun?_of_drawnFor? drawn] at begun
    exact nomatch begun

/-- Every moment keeps the acceptance. -/
theorem Acceptance.step (k : Acceptance h m.before) : Acceptance (h ++ [m]) m.after := by
  obtain ⟨new, fed⟩ := m.feeds
  constructor
  · have single : [m].filterMap (·.drawn?) = m.drawn?.toList := by
      cases drawn : m.drawn? <;> simp [drawn]
    rw [accepted_snoc fed, List.filterMap_append, single]
    exact List.rel_append k.serves fed.serves
  · rw [accepted_snoc fed, List.length_append, fed.started, k.started]
  · intro c
    rw [acceptedFor_snoc, begunFor_snoc]
    refine (k.begun c).append ?_
    cases drawn : m.drawnFor? c with
    | none => exact List.nil_sublist _
    | some a =>
      rw [Moment.begun?_of_drawnFor? drawn]
  · intro c r active
    rw [acceptedFor_snoc]
    -- A newer request of the chart is that of a newer attempt, which is outstanding then.
    rcases m.active_after active with drawn | ⟨idle, before⟩
    · rw [drawn]
      exact List.getLast?_concat
    · rw [idle, Option.toList_none, List.append_nil]
      exact k.newest c r before

end Moments

variable {registry : Registry} {namer : ClassNamer} {clock : Clock} {sink : TelemetrySink}
  {hooks : Hooks}

theorem Acceptance.run (ops : List Operation) :
    Acceptance ((Dashboard.new registry namer clock sink hooks).history ops)
      ((Dashboard.new registry namer clock sink hooks).after ops) := by
  refine Dashboard.run_induction ⟨.nil, rfl, fun c => List.Sublist.refl _, ?_⟩
    (fun _ e op k => k.step (m := ⟨e, op⟩)) ops
  intro c r active
  simp [Dashboard.active?, Dashboard.new] at active

/-- The requests of a chart are accepted in the order of the numbers of their attempts. -/
theorem pairwise_acceptedFor {c : ChartId} {h : History} {d : Dashboard} (k : Acceptance h d)
    (n : Numbering c h d) (few : (begunFor c h).length < UInt64.size) :
    (acceptedFor c h d).Pairwise fun a b => a.raw < b.raw := by
  refine List.Pairwise.sublist (k.begun c) ?_
  rw [n.ids]
  exact pairwise_firstAttempts few

/-- Requests that differ chart by chart differ. -/
theorem nodup_of_attempts {requests : List DrawRequest}
    (apart : ∀ c, ((requests.filter (·.chart = c)).map (·.attempt)).Nodup) :
    (requests.map fun q => (q.chart, q.attempt)).Nodup := by
  induction requests with
  | nil => exact List.nodup_nil
  | cons q rest ih =>
    have tail (c : ChartId) : ((rest.filter (·.chart = c)).map (·.attempt)).Nodup :=
      (apart c).sublist (((List.sublist_cons_self q rest).filter _).map _)
    have first := apart q.chart
    rw [List.filter_cons, if_pos (decide_eq_true rfl), List.map_cons, List.nodup_cons] at first
    rw [List.map_cons, List.nodup_cons]
    refine ⟨fun member => ?_, ih tail⟩
    obtain ⟨p, later, same⟩ := List.mem_map.1 member
    obtain ⟨chart, attempt⟩ := Prod.mk.inj same
    have again : p ∈ rest.filter (·.chart = q.chart) :=
      List.mem_filter.2 ⟨later, decide_eq_true chart⟩
    exact first.1 (List.mem_map.2 ⟨p, again, attempt⟩)

/-- Take any run, and the requests that the engine has accepted in it: those that were taken from it, in
order, and those that it still keeps. They are, one by one and in the order of the beginnings, the requests of
the attempts that began with an area and a type to draw, each one valid and carrying what the input of its
attempt says, and the engine has counted them. As long as the attempts of a chart have not used up all of the
numbers, the requests of the chart come in the order of the numbers of their attempts; if that holds for every
chart, no two requests share their chart and their attempt. The outstanding attempt of a chart is that of the
request accepted last for it. -/
theorem engine_accepts_what_can_be_drawn (registry : Registry) (namer : ClassNamer) (clock : Clock)
    (sink : TelemetrySink) (hooks : Hooks) (ops : List Operation) :
    let d := (Dashboard.new registry namer clock sink hooks).after ops
    let h := (Dashboard.new registry namer clock sink hooks).history ops
    List.Forall₂ DrawRequest.Serves (accepted h d) (h.filterMap (·.drawn?)) ∧
    d.queue.started = (accepted h d).length ∧
    (∀ c, (begunFor c h).length < UInt64.size →
      (acceptedFor c h d).Pairwise fun a b => a.raw < b.raw) ∧
    ((∀ c, (begunFor c h).length < UInt64.size) →
      ((accepted h d).map fun q => (q.chart, q.attempt)).Nodup) ∧
    ∀ c r, d.active? c = some r → (acceptedFor c h d).getLast? = some r.attempt := by
  intro d h
  have k : Acceptance h d := Acceptance.run ops
  have inOrder (c : ChartId) (few : (begunFor c h).length < UInt64.size) :
      (acceptedFor c h d).Pairwise fun a b => a.raw < b.raw :=
    pairwise_acceptedFor k (Numbering.run ops) few
  refine ⟨k.serves, k.started, inOrder, fun few => nodup_of_attempts fun c => ?_, k.newest⟩
  refine (inOrder c (few c)).imp fun less same => ?_
  rw [same] at less
  exact UInt64.lt_irrefl _ less

/-- A request that was taken, and one that is kept. The attempt between them has no type to draw. -/
theorem requests_of_returned_chart_in_order :
    let untyped : RenderInput := { RenderInput.plain ⟨7⟩ with vizType := ⟨""⟩ }
    let ops : List Operation :=
      [.begin (.plain ⟨7⟩), .takePending, .begin untyped, .remove ⟨7⟩, .begin (.plain ⟨7⟩)]
    let d := Dashboard.blank.after ops
    let h := Dashboard.blank.history ops
    (∀ c, (begunFor c h).length < UInt64.size) ∧ acceptedFor ⟨7⟩ h d = [⟨1⟩, ⟨3⟩] ∧
      ((acceptedFor ⟨7⟩ h d).Pairwise fun a b => a.raw < b.raw) ∧
      ((accepted h d).map fun q => (q.chart, q.attempt)).Nodup ∧
      ∃ r, d.active? ⟨7⟩ = some r ∧ (acceptedFor ⟨7⟩ h d).getLast? = some r.attempt := by
  intro untyped ops d h
  have few : ∀ c, (begunFor c h).length < UInt64.size := by
    intro c
    calc (begunFor c h).length ≤ h.length := List.length_filterMap_le _ h
      _ = 5 := rfl
      _ < UInt64.size := by decide
  obtain ⟨r, active⟩ := Option.isSome_iff_exists.1 (show (d.active? ⟨7⟩).isSome = true by decide)
  obtain ⟨-, -, inOrder, apart, newest⟩ :=
    engine_accepts_what_can_be_drawn ∅ .default { epoch := 0 } .recording {} ops
  exact ⟨few, by decide, inOrder ⟨7⟩ (few ⟨7⟩), apart few, r, active, newest ⟨7⟩ r active⟩

end Redraw
