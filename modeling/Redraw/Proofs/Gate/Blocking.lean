import Redraw.Proofs.Attempt.Completions
import Redraw.Proofs.Chart.Agreement

/-!
# A failure blocks its chart

What the gate lets pass is drawn only while the chart has no overlay, no alert and a status that is there
and not loading. A failure leaves an alert behind and nothing outstanding, so from then on no input of the
chart begins an attempt and no callback can be applied: the chart is halted. Every operation keeps it
halted but two. The host may close the alert, and an attempt may be begun past the gate.
-/

namespace Redraw

/-- Nothing stands in the way of drawing the chart. -/
structure StatusSnapshot.Clear (s : StatusSnapshot) : Prop where
  uncovered : s.overlay = false
  unalerted : s.alert = none
  known : s.status ≠ none
  loaded : s.status ≠ some .loading

/-- The chart fails at the moment: a callback for a failure is applied, or the engine refuses an attempt
that begins. -/
def Moment.Fails (m : Moment) (c : ChartId) : Prop :=
  ∃ a error stack, m.completion? = some ⟨c, a, .failure error stack⟩

/-- The chart has failed, and the host has not closed its alert since. -/
def Blocked (c : ChartId) (h : History) : Prop := Since (·.Fails c) (·.op = .setAlert c none) h

/-- Attempts of the chart are begun by submitting inputs only. -/
def Operation.Submitted (op : Operation) (c : ChartId) : Prop := ∀ i, op = .begin i → i.chart ≠ c

/-- The chart has an alert, and none of its attempts is outstanding. -/
structure Dashboard.Halted (c : ChartId) (d : Dashboard) : Prop where
  alert : (d.board.snapshot c).alert ≠ none
  settled : ∀ t, d.tracks.get? c = some t → t.active = none

/-! ## What is drawn -/

theorem clear_of_unskipped {s : StatusSnapshot} (unskipped : SkipReason.of? s = none) : s.Clear := by
  obtain ⟨status, overlay, alert⟩ := s
  unfold SkipReason.of? at unskipped
  cases overlay with
  | true => exact nomatch unskipped
  | false =>
    cases alert with
    | some text => exact nomatch unskipped
    | none =>
      cases status with
      | none => exact nomatch unskipped
      | some s =>
        refine ⟨rfl, rfl, by simp, ?_⟩
        rintro ⟨⟩
        exact nomatch unskipped

theorem clear_of_started {d : Dashboard} {i : RenderInput} {r : AttemptRecord}
    (started : (d.step (.submit i)).2.answer.begun? = some r) : (d.board.snapshot i.chart).Clear := by
  have answer : (d.step (.submit i)).2.answer = .submitted (d.submit i).value := rfl
  rw [answer] at started
  cases d.submission i with
  | withheld decision _ _ outcome =>
    rw [outcome] at started
    exact nomatch started
  | skipped reason _ _ outcome =>
    rw [outcome] at started
    exact nomatch started
  | started _ clear _ => exact clear_of_unskipped clear

namespace Moment

variable {m : Moment} {c : ChartId}

/-- Where an attempt begins by submitting, nothing stands in the way. -/
theorem clear_of_begun (submitted : m.op.Submitted c) {i : RenderInput} {r : AttemptRecord}
    (input : m.op.input? = some i) (chart : i.chart = c)
    (begun : m.reply.answer.begun? = some r) : (m.before.board.snapshot c).Clear := by
  obtain ⟨d, op⟩ := m
  rcases Operation.eq_of_input input with rfl | rfl
  · exact chart ▸ clear_of_started begun
  · exact absurd chart (submitted i rfl)

theorem clear_of_begun? (submitted : m.op.Submitted c) {a : AttemptId} (begun : m.begun? c = some a) :
    (m.before.board.snapshot c).Clear := by
  obtain ⟨r, answer, -⟩ := Moment.answer_of_begun? begun
  cases m.move c with
  | begins i input chart _ _ _ _ _ => exact clear_of_begun submitted input chart answer
  | settles _ _ _ _ _ none _ _ _ _ | forgets _ _ none _ _ _ _ | rests none _ _ _ _ =>
    rw [none] at begun
    exact nomatch begun

end Moment

/-! ## What a failure leaves behind -/

/-- A change of one entry of the board is a change of one snapshot. -/
theorem snapshot_update (b : StatusBoard) (k c : ChartId) (change : StatusEntry → StatusEntry) :
    (b.update k change).snapshot c =
      if k = c then (change (b.entry c)).snapshot else b.snapshot c := by
  unfold StatusBoard.update StatusBoard.snapshot StatusBoard.entry
  by_cases same : k = c <;> simp [same]

theorem alert_signalFailure (b : StatusBoard) (c : ChartId) (error : String) (stack : Option String) :
    ((b.signalFailure c error stack).snapshot c).alert = some error := by
  unfold StatusBoard.signalFailure
  rw [snapshot_update, if_pos rfl]

theorem halted_of_fails {m : Moment} {c : ChartId} (fails : m.Fails c) : m.after.Halted c := by
  obtain ⟨a, error, stack, done⟩ := fails
  cases m.finish with
  | called x r _ settled _ completion _ board tracks =>
    obtain rfl : x = ⟨c, a, .failure error stack⟩ := Option.some.inj (completion.symm.trans done)
    constructor
    · have board : m.after.board = m.before.board.signalFailure c error stack := board
      rw [board, alert_signalFailure]
      exact Option.some_ne_none error
    · intro t after
      rw [tracks, Dashboard.get?_closeTrack, if_pos rfl] at after
      obtain ⟨s, -, rfl⟩ := Option.map_eq_some_iff.1 after
      rfl
  | refused i fault _ refusal _ completion _ board track =>
    have same := Option.some.inj (completion.symm.trans done)
    obtain rfl : i.chart = c := congrArg Completion.chart same
    constructor
    · rw [board, alert_signalFailure]
      exact Option.some_ne_none fault.message
    · intro t after
      obtain rfl := Option.some.inj (track.symm.trans after)
      exact (m.before.active_begunTrack i).2 (by simp [refusal])
  | nothing completion _ _ =>
    rw [completion] at done
    exact nomatch done

/-! ## What a halted chart does -/

namespace Dashboard.Halted

variable {m : Moment} {c : ChartId}

/-- No attempt of a halted chart begins. -/
theorem begun_eq_none (halted : m.before.Halted c) (submitted : m.op.Submitted c) :
    m.begun? c = none := by
  cases begun : m.begun? c with
  | none => rfl
  | some a => exact absurd (Moment.clear_of_begun? submitted begun).unalerted halted.alert

/-- No attempt of a halted chart can be settled. -/
theorem chart_ne_of_settle (halted : m.before.Halted c) {k : ChartId} {a : AttemptId}
    {r : AttemptRecord} (settled : (m.before.settle k a).1 = .ok r) : k ≠ c := by
  rintro rfl
  obtain ⟨t, known, -, active, -⟩ := settle_eq_ok.1 settled
  rw [halted.settled t known] at active
  exact nomatch active

/-- No attempt of a halted chart is completed. -/
theorem chart_ne_of_completion (halted : m.before.Halted c) (submitted : m.op.Submitted c)
    {x : Completion} (done : m.completion? = some x) : x.chart ≠ c := by
  cases m.finish with
  | called y r _ settled _ completion _ _ _ =>
    obtain rfl : y = x := Option.some.inj (completion.symm.trans done)
    exact halted.chart_ne_of_settle settled
  | refused i fault input _ begun completion _ _ _ =>
    obtain rfl := Option.some.inj (completion.symm.trans done)
    exact fun chart => halted.alert (Moment.clear_of_begun submitted input chart begun).unalerted
  | nothing completion _ _ =>
    rw [completion] at done
    exact nomatch done

/-- No callback for a halted chart is applied. -/
theorem not_applied (halted : m.before.Halted c) (submitted : m.op.Submitted c) {a : AttemptId}
    (called : m.op.callback? = some (c, a)) : m.reply.answer.isApplied = false := by
  cases applied : m.reply.answer.isApplied with
  | false => rfl
  | true =>
    have ends : m.Ends c a := .inl ⟨called, applied⟩
    cases m.move c with
    | begins i input _ _ _ _ _ _ =>
      obtain ⟨d, op⟩ := m
      rcases Operation.eq_of_input input with rfl | rfl <;> exact nomatch called
    | settles t r _ known active _ _ _ _ _ =>
      rw [halted.settled t known] at active
      exact nomatch active
    | forgets _ _ _ quiet _ _ _ | rests _ quiet _ _ _ => exact absurd ends (quiet a)

/-- Nothing about a halted chart is handed to the telemetry sink. -/
theorem chart_ne_of_handed (halted : m.before.Halted c) (consistent : m.before.Consistent)
    (submitted : m.op.Submitted c) {t : TelemetryEvent} (member : t ∈ m.handed) : t.chart ≠ c := by
  cases m.finish with
  | called x r _ settled _ _ handed _ _ =>
    rw [handed] at member
    obtain ⟨-, rfl⟩ : r.resultChanged = true ∧ t = r.telemetry m.before.clock x.ending := by
      simpa using member
    obtain ⟨s, known, -, active, -⟩ := settle_eq_ok.1 settled
    have chart : r.chart = x.chart := (consistent x.chart s known).chart_eq active
    exact fun same => halted.chart_ne_of_settle settled (chart.symm.trans same)
  | refused i fault input _ begun completion handed _ _ =>
    rw [handed] at member
    obtain ⟨-, rfl⟩ : (m.before.nextRecord i).resultChanged = true ∧
        t = (m.before.nextRecord i).telemetry m.before.clock (.failure fault.message none) := by
      simpa using member
    exact halted.chart_ne_of_completion submitted completion
  | nothing _ handed _ =>
    rw [handed] at member
    exact nomatch member

/-- Only the host changes what the board says about a halted chart. -/
theorem entry_eq (halted : m.before.Halted c) (submitted : m.op.Submitted c)
    (guest : m.op.isHost = false) : m.after.board.get? c = m.before.board.get? c := by
  have a := Agree.refl c m.before
  cases m.finish with
  | called x r _ settled _ _ _ board _ =>
    have other := halted.chart_ne_of_settle settled
    rw [board]
    split
    · exact (a.signal_other other x.ending).board.symm
    · rfl
  | refused i fault _ _ _ completion _ board _ =>
    have other : i.chart ≠ c := halted.chart_ne_of_completion submitted completion
    rw [board]
    exact (a.signal_other other (.failure fault.message none)).board.symm
  | nothing _ _ board => rw [board guest]

/-- A change of an entry that leaves an open alert open. -/
theorem alert_update (halted : m.before.Halted c) {k : ChartId} {change : StatusEntry → StatusEntry}
    (stays : k = c → ∀ e : StatusEntry, e.snapshot.alert ≠ none → (change e).snapshot.alert ≠ none) :
    ((m.before.board.update k change).snapshot c).alert ≠ none := by
  rw [snapshot_update]
  split
  · next same => exact stays same _ halted.alert
  · exact halted.alert

/-- The host closes an alert only by setting it to none. -/
theorem alert_of_host (halted : m.before.Halted c) (host : m.op.isHost = true)
    (uncleared : m.op ≠ .setAlert c none) : (m.after.board.snapshot c).alert ≠ none := by
  obtain ⟨d, op⟩ := m
  cases op with
  | setStatus k _ | setOverlay k _ | signalSuccess k =>
    exact halted.alert_update fun _ _ alert => alert
  | signalFailure k error _ => exact halted.alert_update fun _ _ _ => Option.some_ne_none error
  | setAlert k alert =>
    refine halted.alert_update fun same _ _ => ?_
    rintro rfl
    exact uncleared (same ▸ rfl)
  | _ => exact nomatch host

/-- A halted chart stays halted until the host closes its alert. -/
theorem step (halted : m.before.Halted c) (submitted : m.op.Submitted c)
    (uncleared : m.op ≠ .setAlert c none) : m.after.Halted c := by
  constructor
  · cases host : m.op.isHost with
    | true => exact halted.alert_of_host host uncleared
    | false =>
      have entry : m.after.board.entry c = m.before.board.entry c :=
        congrArg (·.getD {}) (halted.entry_eq submitted host)
      have snapshot : m.after.board.snapshot c = m.before.board.snapshot c :=
        congrArg StatusEntry.snapshot entry
      rw [snapshot]
      exact halted.alert
  · intro t after
    cases m.move c with
    | begins i _ _ begun _ _ _ _ =>
      rw [halted.begun_eq_none submitted] at begun
      exact nomatch begun
    | settles s r e _ _ _ _ _ track _ =>
      obtain rfl := Option.some.inj (track.symm.trans after)
      rfl
    | forgets s _ _ _ _ track _ =>
      rw [track] at after
      exact nomatch after
    | rests _ _ _ track _ => exact halted.settled t (track.symm.trans after)

end Dashboard.Halted

/-! ## Runs -/

/-- A chart that has failed is halted until the host closes its alert. The run begins attempts of the
chart by submitting inputs only. -/
theorem halted_of_blocked {registry : Registry} {namer : ClassNamer} {clock : Clock}
    {sink : TelemetrySink} {hooks : Hooks} {c : ChartId} (ops : List Operation)
    (submitted : ∀ op ∈ ops, op.Submitted c)
    (blocked : Blocked c ((Dashboard.new registry namer clock sink hooks).history ops)) :
    ((Dashboard.new registry namer clock sink hooks).after ops).Halted c := by
  induction ops using List.reverseRecOn with
  | nil => exact absurd blocked not_since_nil
  | append_singleton ops op ih =>
    rw [Dashboard.history_snoc] at blocked
    rw [Dashboard.after_snoc]
    -- The newest operation makes the chart fail, or finds it halted by the ones before.
    rcases since_snoc.1 blocked with fails | ⟨before, uncleared⟩
    · exact halted_of_fails fails
    · have halted := ih (fun op member => submitted op (List.mem_append_left _ member)) before
      exact halted.step (m := ⟨_, op⟩) (submitted op (by simp)) uncleared

/-- Take any run that begins attempts of a chart by submitting inputs only, and any moment after it. An
attempt of the chart begins at the moment only if the chart has no overlay, no alert and a status that is
there and not loading. If the chart has failed and the host has not closed its alert since, no attempt of
the chart begins, no callback for it is applied, nothing about it is handed to the telemetry sink, and
only the host itself changes what the board says about it. -/
theorem failure_blocks_until_alert_closes (registry : Registry) (namer : ClassNamer) (clock : Clock)
    (sink : TelemetrySink) (hooks : Hooks) (ops : List Operation) (op : Operation) (c : ChartId)
    (submitted : ∀ o ∈ ops ++ [op], o.Submitted c) :
    let h := (Dashboard.new registry namer clock sink hooks).history ops
    let m : Moment := ⟨(Dashboard.new registry namer clock sink hooks).after ops, op⟩
    ((∃ a, m.begun? c = some a) → (m.before.board.snapshot c).Clear) ∧
    (Blocked c h →
      m.begun? c = none ∧
      (∀ a, m.op.callback? = some (c, a) → m.reply.answer.isApplied = false) ∧
      (∀ t ∈ m.handed, t.chart ≠ c) ∧
      (m.op.isHost = false → m.after.board.get? c = m.before.board.get? c)) := by
  intro h m
  have now : m.op.Submitted c := submitted op (by simp)
  refine ⟨fun ⟨a, begun⟩ => Moment.clear_of_begun? now begun, fun blocked => ?_⟩
  have halted : m.before.Halted c :=
    halted_of_blocked ops (fun o member => submitted o (List.mem_append_left _ member)) blocked
  have consistent : m.before.Consistent := Dashboard.consistent_after ops
  refine ⟨halted.begun_eq_none now, fun a => halted.not_applied now, fun t => ?_, ?_⟩
  · exact halted.chart_ne_of_handed consistent now
  · exact halted.entry_eq now

/-- A chart that is always redrawn fails without a text, is removed, and is submitted again while its
status lets it be drawn. -/
theorem failure_without_text_blocks :
    let i : RenderInput := { RenderInput.plain ⟨7⟩ with vizType := ⟨"box_plot_fin"⟩ }
    let ops : List Operation :=
      [.setStatus ⟨7⟩ (some .success), .submit i, .complete ⟨7⟩ ⟨1⟩ (.failure "" none), .remove ⟨7⟩,
        .setStatus ⟨7⟩ (some .success), .setAlert ⟨7⟩ (some "later")]
    let d := Dashboard.new .builtin .default { epoch := 0 } .recording {}
    let m : Moment := ⟨d.after ops, .submit i⟩
    (∀ o ∈ ops ++ [.submit i], o.Submitted ⟨7⟩) ∧ Blocked ⟨7⟩ (d.history ops) ∧
      m.begun? ⟨7⟩ = none ∧ m.after.board.get? ⟨7⟩ = m.before.board.get? ⟨7⟩ := by
  intro i ops d m
  have submitted : ∀ o ∈ ops ++ [.submit i], o.Submitted ⟨7⟩ := by
    simp [ops, Operation.Submitted]
  have blocked : Blocked ⟨7⟩ (d.history ops) := by
    refine ⟨(d.history ops).take 2, ⟨d.after (ops.take 2), .complete ⟨7⟩ ⟨1⟩ (.failure "" none)⟩,
      (d.history ops).drop 3, rfl, ⟨⟨1⟩, "", none, rfl⟩, ?_⟩
    simp [ops]
  have still := (failure_blocks_until_alert_closes .builtin .default { epoch := 0 } .recording {} ops
    (.submit i) ⟨7⟩ submitted).2 blocked
  exact ⟨submitted, blocked, still.1, still.2.2.2 rfl⟩

end Redraw
