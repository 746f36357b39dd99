import Redraw.Proofs.Attempt.Moves

/-!
# Only what is tracked has an effect

Of an input some things are tracked: the chart, its type and its area, which payloads it carries and
whether its query failed, the color scheme, and the two ways to ask for a redraw. Two inputs are twins if
they are equal in these; they may differ in what the payloads contain, in the datasource, in the initial
values and in every other option. Which payloads two runs carry is compared by a pairing of their
identities, so that the runs repeat and change payloads at the same places.

Two runs whose inputs are twins show the same at every moment, but for what the draw requests contain. They
are carried out side by side on dashboards that are twins in the same sense.
-/

namespace Redraw

/-! ## Twins -/

/-- Identities of payloads in one run, each paired with one identity in another run. -/
structure Pairing where
  pairs : String → String → Prop
  oneToOne : ∀ {a a' b b' : String}, pairs a a' → pairs b b' → (a = b ↔ a' = b')

/-- The identities of query results and of annotations, paired apart from each other. -/
structure Pairings where
  results : Pairing
  annotations : Pairing

/-- Payloads at the same place of two runs: neither is there, or their identities are paired. -/
inductive Payload.Paired {α : Type} (p : Pairing) :
    Option (Payload α) → Option (Payload α) → Prop where
  | absent : Paired p none none
  | present {a b : Payload α} (paired : p.pairs a.identity b.identity) : Paired p (some a) (some b)

/-- The inputs are equal in everything that is tracked. -/
structure RenderInput.Twin (p : Pairings) (i j : RenderInput) : Prop where
  chart : i.chart = j.chart
  vizType : i.vizType = j.vizType
  viewport : i.viewport = j.viewport
  result : Payload.Paired p.results i.result j.result
  failed : i.resultFailed = j.resultFailed
  annotations : Payload.Paired p.annotations i.annotations j.annotations
  colorScheme : i.form.colorScheme? = j.form.colorScheme?
  forceRender : i.forceRender = j.forceRender
  cacheBuster : i.cacheBuster = j.cacheBuster

/-- The same is done, with twins for inputs. -/
inductive Operation.Twin (p : Pairings) : Operation → Operation → Prop where
  | submit {i j : RenderInput} (twin : i.Twin p j) : Twin p (.submit i) (.submit j)
  | begin {i j : RenderInput} (twin : i.Twin p j) : Twin p (.begin i) (.begin j)
  | buildRequest {i j : RenderInput} (twin : i.Twin p j) (a : AttemptId) :
      Twin p (.buildRequest i a) (.buildRequest j a)
  | other {op : Operation} (unsubmitted : ∀ i, op ≠ .submit i) (unbegun : ∀ i, op ≠ .begin i)
      (unbuilt : ∀ i a, op ≠ .buildRequest i a) : Twin p op op

/-- The request without what it brings to the engine. -/
def DrawRequest.emptied (d : DrawRequest) : DrawRequest :=
  { d with
    engine := .plugin, result := none, annotations := none, datasource := none
    initialValues := ∅, form := ∅, relabeled := false }

/-- The answer with emptied requests. -/
def Answer.emptied : Answer → Answer
  | request d => request d.emptied
  | pending started requests => pending started (requests.map (·.emptied))
  | taken started requests => taken started (requests.map (·.emptied))
  | last d => last (d.map (·.emptied))
  | answer => answer

/-- Two moments show the same, but for what the draw requests contain. -/
structure Moment.Twin (m n : Moment) : Prop where
  decision : ∀ i j, m.op = .submit i → n.op = .submit j → m.before.decision? i = n.before.decision? j
  answer : m.reply.answer.emptied = n.reply.answer.emptied
  telemetry : m.reply.telemetry = n.reply.telemetry
  events : m.reply.events = n.reply.events
  delivered : m.reply.delivered = n.reply.delivered
  calls : m.reply.calls = n.reply.calls
  phase : ∀ c, m.after.phase c = n.after.phase c
  active : ∀ c, m.after.active? c = n.after.active? c
  latest : ∀ c, m.after.latest? c = n.after.latest? c
  board : m.after.board = n.after.board

/-- The tracks are equal up to the payload that the newest attempt was begun with. -/
structure Track.Twin (p : Pairings) (t u : Track) : Prop where
  latest : t.latest = u.latest
  active : t.active = u.active
  phase : t.phase = u.phase
  lastResult : Payload.Paired p.results t.lastResult u.lastResult

/-- The inputs are twins and were seen with the same status. -/
structure SeenInput.Twin (p : Pairings) (s t : SeenInput) : Prop where
  input : s.input.Twin p t.input
  status : s.status = t.status

/-- The dashboards are equal up to what inputs may differ in. -/
structure Dashboard.Twin (p : Pairings) (d e : Dashboard) : Prop where
  registry : d.registry = e.registry
  namer : d.namer = e.namer
  clock : d.clock = e.clock
  sink : d.sink = e.sink
  hooks : d.hooks = e.hooks
  observers : d.observers = e.observers
  board : d.board = e.board
  retired : d.retired = e.retired
  started : d.queue.started = e.queue.started
  pending : d.queue.pending.map (·.emptied) = e.queue.pending.map (·.emptied)
  tracks : ∀ c, Option.Rel (Track.Twin p) (d.tracks.get? c) (e.tracks.get? c)
  seen : ∀ c, Option.Rel (SeenInput.Twin p) (d.seen.get? c) (e.seen.get? c)

/-- Two actions go the same way, up to what inputs may differ in. -/
structure Outcome.Twin {α : Type} (p : Pairings) (o q : Outcome α) : Prop where
  value : o.value = q.value
  dashboard : o.dashboard.Twin p q.dashboard
  emitted : o.emitted = q.emitted

variable {p : Pairings}

/-! ## What is decided about twins -/

/-- Payloads are repeated in one run where they are in the other. -/
theorem Payload.Paired.same_eq {α : Type} {q : Pairing} {a a' b b' : Option (Payload α)}
    (left : Paired q a a') (right : Paired q b b') : Payload.same a b = Payload.same a' b' := by
  cases left with
  | absent =>
    cases right with
    | absent => rfl
    | present _ => rfl
  | present first =>
    cases right with
    | absent => rfl
    | present second =>
      simp only [Payload.same, Option.map_some, Option.some.injEq, q.oneToOne first second]

theorem Payload.Paired.isSome_eq {α : Type} {q : Pairing} {a b : Option (Payload α)}
    (k : Paired q a b) : a.isSome = b.isSome := by
  cases k <;> rfl

/-- Inputs that are twins one by one differ in the same topics. -/
theorem changedTopics_twin {i i' j j' : RenderInput} (previous : i.Twin p i') (next : j.Twin p j') :
    changedTopics i j = changedTopics i' j' := by
  unfold changedTopics
  rw [previous.result.same_eq next.result, previous.annotations.same_eq next.annotations,
    previous.viewport, next.viewport, next.forceRender, previous.colorScheme, next.colorScheme,
    previous.cacheBuster, next.cacheBuster]

/-- A result, whether its query failed, and the status make an input ready, and twins share these. -/
theorem SeenInput.Twin.isReady_eq {s t : SeenInput} (k : s.Twin p t) : s.isReady = t.isReady := by
  unfold isReady
  rw [k.input.result.isSome_eq, k.status, k.input.failed]

/-- The gate decides alike about twin inputs. -/
theorem evaluateRedraw_twin (r : Registry) {s s' t t' : SeenInput} (previous : s.Twin p s')
    (next : t.Twin p t') : evaluateRedraw r s t = evaluateRedraw r s' t' := by
  unfold evaluateRedraw
  rw [next.input.vizType, next.isReady_eq, changedTopics_twin previous.input next.input]

namespace RenderInput.Twin

variable {i j : RenderInput}

/-- What the engine refuses is tracked. -/
theorem refusal_eq (k : i.Twin p j) : i.refusal? = j.refusal? := by
  unfold refusal?
  rw [k.viewport, k.vizType]

/-- Requests for twin inputs are equal once they are emptied, whatever the strategies are. -/
theorem emptied_eq (k : i.Twin p j) (r s : Registry) (namer : ClassNamer) (a : AttemptId) :
    (DrawRequest.build r namer i a).emptied = (DrawRequest.build s namer j a).emptied := by
  simp only [DrawRequest.build, DrawRequest.emptied, k.chart, k.vizType, k.viewport]

end RenderInput.Twin

/-! ## Twin tracks -/

namespace Track.Twin

variable {t u : Track} {i j : RenderInput}

/-- Twin inputs get the same record from twin tracks, for their results are paired. -/
theorem nextRecord_eq (k : t.Twin p u) (twin : i.Twin p j) (now : Float) :
    t.nextRecord i now = u.nextRecord j now := by
  unfold nextRecord
  rw [twin.chart, twin.vizType, k.latest, k.lastResult.same_eq twin.result]

theorem begin (_k : t.Twin p u) (twin : i.Twin p j) (r : AttemptRecord) :
    (t.begin r i.result).Twin p (u.begin r j.result) :=
  ⟨rfl, rfl, rfl, twin.result⟩

theorem close (k : t.Twin p u) (phase : Phase) : (t.close phase).Twin p (u.close phase) :=
  ⟨k.latest, rfl, rfl, k.lastResult⟩

/-- Twin tracks give away the same record, or none for the same reason. -/
theorem settle_eq (k : t.Twin p u) (a : AttemptId) : (t.settle a).1 = (u.settle a).1 := by
  cases t.settlement a with
  | superseded older outcome =>
    rw [outcome, k.latest, settle_superseded (k.latest ▸ older)]
  | ended newest others outcome =>
    rw [k.latest, k.active] at others
    rw [outcome, newest, k.latest, settle_ended others]
  | taken r newest active attempt outcome =>
    rw [k.latest] at attempt
    rw [outcome, newest, k.latest, settle_taken (k.active.symm.trans active) attempt]

end Track.Twin

/-! ## What is read from twin dashboards -/

/-- Writing related values at a key leaves two maps related. -/
theorem OrderedMap.rel_insert {κ α β : Type} [DecidableEq κ] {R : α → β → Prop}
    {m : OrderedMap κ α} {n : OrderedMap κ β} (k : ∀ c, Option.Rel R (m.get? c) (n.get? c)) {a : α}
    {b : β} (ab : R a b) (key c : κ) : Option.Rel R ((m.insert key a).get? c) ((n.insert key b).get? c) := by
  rw [get?_insert, get?_insert]
  split
  · exact .some ab
  · exact k c

/-- Erasing a key leaves two maps related. -/
theorem OrderedMap.rel_erase {κ α β : Type} [DecidableEq κ] {R : α → β → Prop}
    {m : OrderedMap κ α} {n : OrderedMap κ β} (k : ∀ c, Option.Rel R (m.get? c) (n.get? c))
    (key c : κ) : Option.Rel R ((m.erase key).get? c) ((n.erase key).get? c) := by
  rw [get?_erase, get?_erase]
  split
  · exact .none
  · exact k c

/-- What is read from related values alike is equal. -/
theorem map_eq_of_rel {α β γ : Type} {R : α → β → Prop} {a : Option α} {b : Option β}
    {f : α → γ} {g : β → γ} (k : Option.Rel R a b) (same : ∀ {x y}, R x y → f x = g y) :
    a.map f = b.map g := by
  cases k with
  | none => rfl
  | some related => exact congrArg some (same related)

/-- What a new track and an unknown one are resumed from is no payload. -/
theorem Track.Twin.resumingAfter (p : Pairings) (a : AttemptId) :
    (Track.resumingAfter a).Twin p (.resumingAfter a) :=
  ⟨rfl, rfl, rfl, .absent⟩

namespace Dashboard.Twin

variable {c : ChartId} {d e : Dashboard} {i j : RenderInput}

/-- Nothing has happened on either dashboard, so there is nothing to differ in. -/
theorem fresh (p : Pairings) (registry : Registry) (namer : ClassNamer) (clock : Clock)
    (sink : TelemetrySink) (hooks : Hooks) :
    (new registry namer clock sink hooks).Twin p (new registry namer clock sink hooks) := by
  constructor
  case tracks => exact fun _ => .none
  case seen => exact fun _ => .none
  all_goals rfl

theorem phase_eq (k : d.Twin p e) (c : ChartId) : d.phase c = e.phase c :=
  congrArg (Option.getD · Phase.idle) (map_eq_of_rel (k.tracks c) Track.Twin.phase)

theorem latest_eq (k : d.Twin p e) (c : ChartId) : d.latest? c = e.latest? c :=
  map_eq_of_rel (k.tracks c) Track.Twin.latest

theorem active_eq (k : d.Twin p e) (c : ChartId) : d.active? c = e.active? c := by
  have twin := k.tracks c
  unfold active?
  generalize d.tracks.get? c = t, e.tracks.get? c = u at twin
  cases twin with
  | none => rfl
  | some twin => exact twin.active

/-- The next attempt of a chart continues twin tracks. -/
theorem track (k : d.Twin p e) (c : ChartId) : (d.track c).Twin p (e.track c) := by
  have twin := k.tracks c
  unfold Dashboard.track
  rw [k.retired]
  generalize d.tracks.get? c = t, e.tracks.get? c = u at twin
  cases twin with
  | some twin => exact twin
  | none =>
    cases e.retired.get? c with
    | none => exact .resumingAfter p ⟨0⟩
    | some a => exact .resumingAfter p a

/-- A callback takes the same record on both, or is dropped for the same reason. -/
theorem settle_eq (k : d.Twin p e) (c : ChartId) (a : AttemptId) :
    (d.settle c a).1 = (e.settle c a).1 := by
  have twin := k.tracks c
  unfold settle
  generalize d.tracks.get? c = t, e.tracks.get? c = u at twin
  cases twin with
  | none => rfl
  | some twin => exact twin.settle_eq a

/-- The gate compares twin inputs with twin last inputs. -/
theorem decision_eq (k : d.Twin p e) (twin : i.Twin p j) : d.decision? i = e.decision? j := by
  have seen : SeenInput.Twin p ⟨i, d.board.snapshot i.chart⟩ ⟨j, e.board.snapshot j.chart⟩ :=
    ⟨twin, by rw [k.board, twin.chart]⟩
  unfold decision?
  rw [← twin.chart, k.registry]
  rw [← twin.chart] at seen
  exact map_eq_of_rel (k.seen i.chart) fun previous => evaluateRedraw_twin e.registry previous seen

theorem nextRecord_eq (k : d.Twin p e) (twin : i.Twin p j) : d.nextRecord i = e.nextRecord j := by
  unfold nextRecord
  rw [k.clock, ← twin.chart]
  exact (k.track i.chart).nextRecord_eq twin _

theorem begunEvent_eq (k : d.Twin p e) (twin : i.Twin p j) : d.begunEvent i = e.begunEvent j := by
  unfold begunEvent
  rw [k.nextRecord_eq twin, twin.chart]

/-! ## What is done to twin dashboards -/

/-- The tracks stay twins when a chart's attempt has begun. -/
theorem follow (k : d.Twin p e) (twin : i.Twin p j) (r : AttemptRecord) :
    (d.follow i r).Twin p (e.follow j r) := by
  have tracks := fun c => OrderedMap.rel_insert k.tracks ((k.track i.chart).begin twin r) i.chart c
  unfold Dashboard.follow
  rw [← twin.chart]
  exact { k with
    tracks := tracks
    retired := congrArg (·.erase i.chart) k.retired }

/-- The tracks stay twins when a chart's attempt has ended. -/
theorem closeTrack (k : d.Twin p e) (c : ChartId) (phase : Phase) (key : ChartId) :
    Option.Rel (Track.Twin p) ((d.closeTrack c phase).get? key) ((e.closeTrack c phase).get? key) := by
  rw [get?_closeTrack, get?_closeTrack]
  split
  · have twin := k.tracks c
    generalize d.tracks.get? c = t, e.tracks.get? c = u at twin
    cases twin with
    | none => exact .none
    | some twin => exact .some (twin.close phase)
  · exact k.tracks key

/-- Twin inputs begin with the same record, and fail at once with the same error or not at all. -/
theorem begin (k : d.Twin p e) (twin : i.Twin p j) : (d.begin i).Twin p (e.begin j) := by
  have record := k.nextRecord_eq twin
  have followed := k.follow twin (e.nextRecord j)
  have event := k.begunEvent_eq twin
  cases refusal : j.refusal? with
  | none =>
    have accepted : i.refusal? = none := twin.refusal_eq.trans refusal
    have request := twin.emptied_eq d.registry e.registry e.namer (e.nextRecord j).attempt
    rw [begin_accepted accepted, begin_accepted refusal, record, event]
    refine ⟨rfl, { followed with started := ?_, pending := ?_ }, rfl⟩
    · exact congrArg (· + 1) k.started
    · simp only [DrawQueue.accept, List.map_append, List.map_cons, List.map_nil, k.pending,
        drawRequest, k.namer, request]
  | some fault =>
    have refused : i.refusal? = some fault := twin.refusal_eq.trans refusal
    have closed := followed.closeTrack j.chart .errored
    rw [begin_refused refused, begin_refused refusal, record, event, k.board, twin.chart]
    refine ⟨rfl, { followed with board := rfl, tracks := closed }, ?_⟩
    rw [k.clock]

/-- A callback ends the same attempt on both and signals the same. -/
theorem complete (k : d.Twin p e) (c : ChartId) (a : AttemptId) (x : Ending) :
    (d.complete c a x).Twin p (e.complete c a x) := by
  have settle := k.settle_eq c a
  cases settled : (e.settle c a).1 with
  | error reason =>
    rw [complete_dropped (settle.trans settled), complete_dropped settled]
    exact ⟨rfl, k, rfl⟩
  | ok r =>
    have closed := k.closeTrack c x.phase
    rw [complete_applied (settle.trans settled), complete_applied settled, k.board]
    refine ⟨rfl, { k with board := rfl, tracks := closed }, ?_⟩
    rw [k.clock]

theorem forget (k : d.Twin p e) (c : ChartId) : (d.forget c).Twin p (e.forget c) := by
  have twin := k.tracks c
  unfold Dashboard.forget
  generalize d.tracks.get? c = t, e.tracks.get? c = u at twin
  cases twin with
  | none => exact ⟨rfl, k, rfl⟩
  | some twin =>
    have retired : ∀ a, d.retired.insert c a = e.retired.insert c a := by
      intro a
      rw [k.retired]
    have tracks := OrderedMap.rel_erase k.tracks c
    refine ⟨rfl, { k with tracks := tracks, retired := ?_ }, rfl⟩
    simp only [retired, twin.latest]

/-- Removing a chart tells the same on both: whether there was a track or a last input. -/
theorem remove (k : d.Twin p e) (c : ChartId) : (d.remove c).Twin p (e.remove c) := by
  have forgotten := k.forget c
  have seen : d.seen.contains c = e.seen.contains c := by
    have related := k.seen c
    unfold OrderedMap.contains
    generalize d.seen.get? c = s, e.seen.get? c = t at related
    cases related <;> rfl
  rw [remove_eq, remove_eq, forgotten.value, seen]
  exact ⟨rfl, { forgotten.dashboard with seen := OrderedMap.rel_erase k.seen c }, rfl⟩

/-- Twin inputs are withheld, skipped or drawn alike. -/
theorem consider (k : d.Twin p e) (twin : i.Twin p j) : (d.consider i).Twin p (e.consider j) := by
  unfold Dashboard.consider
  rw [k.decision_eq twin, k.board, twin.chart]
  cases (e.decision? j).filter (!·.isRedraw) with
  | some decision => exact ⟨rfl, k, rfl⟩
  | none =>
    cases SkipReason.of? (e.board.snapshot j.chart) with
    | some reason => exact ⟨rfl, k, rfl⟩
    | none =>
      have begun := k.begin twin
      exact ⟨congrArg SubmitOutcome.started begun.value, begun.dashboard, begun.emitted⟩

/-- Submitted twins are twin last inputs of their chart, seen with the same status. -/
theorem submit (k : d.Twin p e) (twin : i.Twin p j) : (d.submit i).Twin p (e.submit j) := by
  have considered := k.consider twin
  have seen : SeenInput.Twin p ⟨i, d.board.snapshot i.chart⟩ ⟨j, e.board.snapshot i.chart⟩ :=
    ⟨twin, by rw [k.board]⟩
  unfold Dashboard.submit
  rw [← twin.chart]
  refine ⟨considered.value, { considered.dashboard with seen := ?_ }, considered.emitted⟩
  exact fun c => OrderedMap.rel_insert considered.dashboard.seen seen i.chart c

end Dashboard.Twin

namespace Outcome.Twin

variable {α β : Type} {o q : Outcome α}

/-- Answers follow what the actions return. -/
theorem map (k : o.Twin p q) (f : α → β) :
    Twin p { o with value := f o.value } { q with value := f q.value } :=
  ⟨congrArg f k.value, k.dashboard, k.emitted⟩

/-- An action without an answer of its own leads to twins. -/
theorem quietly {d e : Dashboard} (k : d.Twin p e) : d.quietly.Twin p e.quietly := ⟨rfl, k, rfl⟩

end Outcome.Twin

/-! ## Two runs -/

/-- What two actions return is shown alike, and they lead to twins. -/
structure Dashboard.Shown (p : Pairings) (o q : Outcome Answer) : Prop where
  answer : o.value.emptied = q.value.emptied
  dashboard : o.dashboard.Twin p q.dashboard
  emitted : o.emitted = q.emitted

/-- What goes the same way shows the same. -/
theorem Outcome.Twin.shown {o q : Outcome Answer} (k : o.Twin p q) : Dashboard.Shown p o q :=
  ⟨congrArg Answer.emptied k.value, k.dashboard, k.emitted⟩

namespace Dashboard.Twin

variable {d e : Dashboard} {op op' : Operation}

/-- An observer is refused on both or added on both. -/
theorem addObserver (k : d.Twin p e) (id : String) :
    (d.unlessRefused (d.addObserver id)).Twin p (e.unlessRefused (e.addObserver id)) := by
  unfold Dashboard.addObserver
  rw [k.observers]
  split
  · exact ⟨rfl, k, rfl⟩
  · split
    · exact ⟨rfl, k, rfl⟩
    · exact ⟨rfl, { k with observers := rfl }, rfl⟩

/-- A strategy is refused on both or added on both. -/
theorem addStrategy (k : d.Twin p e) (v : VizType) (s : Strategy) :
    (d.unlessRefused ((d.registry.register v s).map fun r => { d with registry := r })).Twin p
      (e.unlessRefused ((e.registry.register v s).map fun r => { e with registry := r })) := by
  rw [k.registry]
  cases e.registry.register v s with
  | error fault => exact ⟨rfl, k, rfl⟩
  | ok r => exact ⟨rfl, { k with registry := rfl }, rfl⟩

/-- Operations that hand over requests answer with requests that differ in their contents only. -/
theorem shown_requests (k : d.Twin p e) :
    Shown p (d.perform .listPending) (e.perform .listPending) ∧
      Shown p (d.perform .takePending) (e.perform .takePending) ∧
      Shown p (d.perform .lastRequest) (e.perform .lastRequest) := by
  refine ⟨⟨?_, k, rfl⟩, ⟨?_, { k with pending := rfl }, rfl⟩, ⟨?_, k, rfl⟩⟩
  · simp only [perform, Answer.emptied, k.started, k.pending]
  · simp only [perform, Answer.emptied, DrawQueue.take, k.started, k.pending]
  · simp only [perform, Answer.emptied, DrawQueue.last?, ← List.getLast?_map, k.pending]

/-- What is done without an input shows the same, once requests are emptied. -/
theorem perform_other (k : d.Twin p e) (unsubmitted : ∀ i, op ≠ .submit i)
    (unbegun : ∀ i, op ≠ .begin i) (unbuilt : ∀ i a, op ≠ .buildRequest i a) :
    Shown p (d.perform op) (e.perform op) := by
  cases op with
  | submit i => exact absurd rfl (unsubmitted i)
  | begin i => exact absurd rfl (unbegun i)
  | buildRequest i a => exact absurd rfl (unbuilt i a)
  | setStatus c status =>
    exact ⟨rfl, { k with board := congrArg (·.setStatus c status) k.board }, rfl⟩
  | setOverlay c visible =>
    exact ⟨rfl, { k with board := congrArg (·.setOverlay c visible) k.board }, rfl⟩
  | setAlert c alert =>
    exact ⟨rfl, { k with board := congrArg (·.setAlert c alert) k.board }, rfl⟩
  | signalSuccess c =>
    exact ⟨rfl, { k with board := congrArg (·.signalSuccess c) k.board }, rfl⟩
  | signalFailure c error stack =>
    exact ⟨rfl, { k with board := congrArg (·.signalFailure c error stack) k.board }, rfl⟩
  | setClock time =>
    have clock : d.clock.set time = e.clock.set time := congrArg (·.set time) k.clock
    exact ⟨by simp only [perform, tellTime, clock], { k with clock := clock }, rfl⟩
  | advanceClock time =>
    have clock : d.clock.advance time = e.clock.advance time := congrArg (·.advance time) k.clock
    exact ⟨by simp only [perform, tellTime, clock], { k with clock := clock }, rfl⟩
  | complete c a x => exact ((k.complete c a x).map Answer.callback).shown
  | completeRecord r x => exact ((k.complete r.chart r.attempt x).map Answer.callback).shown
  | remove c => exact ((k.remove c).map Answer.flag).shown
  | forget c => exact ((k.forget c).map Answer.flag).shown
  | inspect c => exact (Outcome.Twin.quietly k).shown
  | addObserver id => exact (k.addObserver id).shown
  | removeObserver id =>
    have observers := k.observers
    refine ⟨by simp only [perform, observers], { k with observers := ?_ }, rfl⟩
    exact congrArg (·.erase id) observers
  | findObserver id => exact ⟨by simp only [perform, k.observers], k, rfl⟩
  | addStrategy v s => exact (k.addStrategy v s).shown
  | removeStrategy v =>
    have registry := k.registry
    refine ⟨by simp only [perform, registry], { k with registry := ?_ }, rfl⟩
    exact congrArg (fun r => (r.unregister v).1) registry
  | setHooks h => exact ⟨rfl, { k with hooks := rfl }, rfl⟩
  | describeHooks => exact ⟨by simp only [perform, k.hooks], k, rfl⟩
  | callHook c => exact ⟨rfl, k, by simp only [perform, k.hooks]⟩
  | listPending => exact k.shown_requests.1
  | takePending => exact k.shown_requests.2.1
  | lastRequest => exact k.shown_requests.2.2

/-- Operations with twins for inputs go the same way on twin dashboards. -/
theorem perform (k : d.Twin p e) (twin : op.Twin p op') :
    Shown p (d.perform op) (e.perform op') := by
  cases twin with
  | submit twin => exact ((k.submit twin).map Answer.submitted).shown
  | begin twin => exact ((k.begin twin).map Answer.begun).shown
  | buildRequest twin a =>
    refine ⟨?_, k, rfl⟩
    simp only [Dashboard.perform, Answer.emptied, drawRequest, k.namer,
      twin.emptied_eq d.registry e.registry]
  | other unsubmitted unbegun unbuilt => exact k.perform_other unsubmitted unbegun unbuilt

theorem step (k : d.Twin p e) (twin : op.Twin p op') : (d.step op).1.Twin p (e.step op').1 :=
  (k.perform twin).dashboard

/-- Two moments on twin dashboards show the same. -/
theorem moment (k : d.Twin p e) (twin : op.Twin p op') : Moment.Twin ⟨d, op⟩ ⟨e, op'⟩ := by
  have shown := k.perform twin
  have next := k.step twin
  constructor
  case decision =>
    rintro i j rfl rfl
    cases twin with
    | submit twin => exact k.decision_eq twin
    | other unsubmitted _ _ => exact absurd rfl (unsubmitted i)
  case answer => exact shown.answer
  case telemetry => simp only [Moment.reply, Dashboard.step, shown.emitted, k.sink]
  case events => exact congrArg Emissions.events shown.emitted
  case delivered => simp only [Moment.reply, Dashboard.step, shown.emitted, k.observers]
  case calls => exact congrArg Emissions.calls shown.emitted
  case phase => exact next.phase_eq
  case active => exact next.active_eq
  case latest => exact next.latest_eq
  case board => exact next.board

/-- Runs on twin dashboards show the same at every moment. The induction is on the two runs. -/
theorem run (k : d.Twin p e) {ops ops' : List Operation}
    (twins : List.Forall₂ (Operation.Twin p) ops ops') :
    List.Forall₂ Moment.Twin (d.history ops) (e.history ops') := by
  induction twins generalizing d e with
  | nil => exact .nil
  | cons twin rest ih => exact .cons (k.moment twin) (ih (k.step twin))

end Dashboard.Twin

/-- Take two runs that differ only in what inputs have besides what is tracked: in the contents of payloads,
of which the second run repeats and changes the identities where the first one does, in datasources, in
initial values and in the options other than the color scheme. Both runs show the same at every moment:
decisions, answers, records, phases, events, the board and telemetry are equal, and only what the draw
requests contain may differ. -/
theorem untracked_data_shows_nowhere (registry : Registry) (namer : ClassNamer) (clock : Clock)
    (sink : TelemetrySink) (hooks : Hooks) (p : Pairings) {ops ops' : List Operation}
    (twins : List.Forall₂ (Operation.Twin p) ops ops') :
    let d := Dashboard.new registry namer clock sink hooks
    List.Forall₂ Moment.Twin (d.history ops) (d.history ops') := by
  intro d
  have fresh : d.Twin p d := Dashboard.Twin.fresh p registry namer clock sink hooks
  exact fresh.run twins

/-- One run submits a result twice, then another one. The other run has other payloads in the same places,
other options, and a datasource. -/
theorem untracked_data_of_twin_charts :
    let paired : Pairing :=
      { pairs := fun a b => a = "first" ∧ b = "old" ∨ a = "second" ∧ b = "new"
        oneToOne := by grind }
    let p : Pairings := ⟨paired, paired⟩
    let i : RenderInput :=
      { RenderInput.plain ⟨7⟩ with result := some ⟨"first", .null, none⟩ }
    let j : RenderInput :=
      { RenderInput.plain ⟨7⟩ with
        result := some ⟨"old", .ofString "rows", none⟩
        datasource := some (.ofString "prices")
        form := OrderedMap.ofList [("viz_type", .ofString "table")] }
    let i' : RenderInput := { i with result := some ⟨"second", .null, none⟩ }
    let j' : RenderInput := { j with result := some ⟨"new", .null, none⟩ }
    let ops : List Operation :=
      [.setStatus ⟨7⟩ (some .success), .submit i, .submit i, .submit i', .complete ⟨7⟩ ⟨2⟩ .success]
    let ops' : List Operation :=
      [.setStatus ⟨7⟩ (some .success), .submit j, .submit j, .submit j', .complete ⟨7⟩ ⟨2⟩ .success]
    List.Forall₂ (Operation.Twin p) ops ops' ∧
      List.Forall₂ Moment.Twin (Dashboard.blank.history ops) (Dashboard.blank.history ops') := by
  intro paired p i j i' j' ops ops'
  have first : i.Twin p j :=
    ⟨rfl, rfl, rfl, .present (.inl ⟨rfl, rfl⟩), rfl, .absent, rfl, rfl, rfl⟩
  have second : i'.Twin p j' :=
    ⟨rfl, rfl, rfl, .present (.inr ⟨rfl, rfl⟩), rfl, .absent, rfl, rfl, rfl⟩
  have host : Operation.Twin p (.setStatus ⟨7⟩ (some .success)) (.setStatus ⟨7⟩ (some .success)) :=
    .other (by simp) (by simp) (by simp)
  have callback : Operation.Twin p (.complete ⟨7⟩ ⟨2⟩ .success) (.complete ⟨7⟩ ⟨2⟩ .success) :=
    .other (by simp) (by simp) (by simp)
  have twins : List.Forall₂ (Operation.Twin p) ops ops' :=
    .cons host (.cons (.submit first) (.cons (.submit first)
      (.cons (.submit second) (.cons callback .nil))))
  exact ⟨twins, untracked_data_shows_nowhere ∅ .default { epoch := 0 } .recording {} p twins⟩

end Redraw
