import Redraw.Proofs.Attempt.Moves

/-!
# Inputs are judged by history

An input is compared with the last one of its chart. Which one that is can be said of any history: the
most recent submission since the chart was last removed, whatever was answered to it and whatever
happened to its attempt. The dashboard remembers exactly that one, so what is answered to an input
follows from the history, the status of the chart and two rules: the gate compares the input with the
last one, and what the gate lets pass is drawn unless the status stands in the way.
-/

namespace Redraw

/-- An input of the chart is submitted while the chart has the status beside it. -/
def Moment.Submits (m : Moment) (c : ChartId) (s : SeenInput) : Prop :=
  m.op = .submit s.input ∧ s.input.chart = c ∧ s.status = m.before.board.snapshot c

/-- This is the most recent submission of the chart since it was last removed. -/
def LastSubmission (c : ChartId) (s : SeenInput) (h : History) : Prop :=
  Since (·.Submits c s) (fun m => (∃ newer, m.Submits c newer) ∨ m.op = .remove c) h

/-- What the status of a chart makes of an input that is to be drawn. The overlay is looked at first,
then the alert, then the status itself. -/
def DrawnUnlessBlocked (s : StatusSnapshot) (o : SubmitOutcome) : Prop :=
  if s.overlay then o = .skipped .refreshOverlay
  else if s.alert.isSome then o = .skipped .alert
  else
    match s.status with
    | none => o = .skipped .nullStatus
    | some .loading => o = .skipped .loading
    | some _ => ∃ r, o = .started r

/-- What the gate and the status make of an input, given the last one of its chart. -/
def Obeys (r : Registry) (last : Option SeenInput) (now : SeenInput) (o : SubmitOutcome) : Prop :=
  match last.map fun l => evaluateRedraw r l now with
  | some .notReady => o = .withheld .notReady
  | some .unchanged => o = .withheld .unchanged
  | some .typeOverride | some (.changed _) | none => DrawnUnlessBlocked now.status o

/-! ## What the dashboard remembers -/

namespace Moment

/-- What a moment does to the last input of a chart. -/
inductive Recollection (m : Moment) (c : ChartId) : Prop where
  | submits (s : SeenInput) (submitted : m.Submits c s) (seen : m.after.seen.get? c = some s)
  | discards (removed : m.op = .remove c) (seen : m.after.seen.get? c = none)
  | keeps (silent : ∀ s, ¬ m.Submits c s) (stays : m.op ≠ .remove c)
      (seen : m.after.seen.get? c = m.before.seen.get? c)

variable {c : ChartId}

/-- A submitted input is the last one of its chart, whatever becomes of it. -/
theorem seen_submit (d : Dashboard) (i : RenderInput) :
    (d.submit i).dashboard.seen = d.seen.insert i.chart ⟨i, d.board.snapshot i.chart⟩ := by
  cases d.submission i with
  | withheld decision _ _ outcome => rw [outcome]
  | skipped reason _ _ outcome => rw [outcome]
  | started _ _ outcome =>
    rw [outcome]
    simp only [Dashboard.begin_seen]

theorem recollection_of_submit (d : Dashboard) (i : RenderInput) : Recollection ⟨d, .submit i⟩ c := by
  have seen : (⟨d, .submit i⟩ : Moment).after.seen =
      d.seen.insert i.chart ⟨i, d.board.snapshot i.chart⟩ := seen_submit d i
  by_cases chart : i.chart = c
  · subst chart
    refine .submits ⟨i, d.board.snapshot i.chart⟩ ⟨rfl, rfl, rfl⟩ ?_
    rw [seen, OrderedMap.get?_insert, if_pos rfl]
  · refine .keeps ?_ (fun h => nomatch h) ?_
    · rintro s ⟨same, other, -⟩
      obtain rfl : i = s.input := by simpa using same
      exact chart other
    · rw [seen, OrderedMap.get?_insert, if_neg chart]

theorem recollection_of_remove (d : Dashboard) (k : ChartId) : Recollection ⟨d, .remove k⟩ c := by
  have seen : (⟨d, .remove k⟩ : Moment).after.seen = d.seen.erase k :=
    congrArg (fun o => o.dashboard.seen) (d.remove_eq k)
  by_cases chart : k = c
  · subst chart
    refine .discards rfl ?_
    rw [seen, OrderedMap.get?_erase, if_pos rfl]
  · refine .keeps (fun s submitted => nomatch submitted.1) ?_ ?_
    · rintro same
      exact chart (by simpa using same)
    · rw [seen, OrderedMap.get?_erase, if_neg chart]

theorem recollection_of_other {m : Moment} (silent : ∀ i, m.op ≠ .submit i) (stays : m.op ≠ .remove c)
    (seen : m.after.seen = m.before.seen) : m.Recollection c :=
  .keeps (fun s submitted => silent s.input submitted.1) stays (by rw [seen])

/-- Only submitting and removing change what is remembered. -/
theorem recollection (m : Moment) (c : ChartId) : m.Recollection c := by
  obtain ⟨d, op⟩ := m
  cases op with
  | submit i => exact recollection_of_submit d i
  | remove k => exact recollection_of_remove d k
  | begin i => exact recollection_of_other (fun _ => nofun) nofun (d.begin_seen i)
  | complete k a e => exact recollection_of_other (fun _ => nofun) nofun (d.complete_seen k a e)
  | completeRecord r e =>
    exact recollection_of_other (fun _ => nofun) nofun (d.complete_seen r.chart r.attempt e)
  | forget k => exact recollection_of_other (fun _ => nofun) nofun (d.forget_seen k)
  | _ => exact recollection_of_other (fun _ => nofun) nofun (Quiet.seen (quiet_of_isQuiet d rfl))

end Moment

/-- The dashboard remembers the last submission of the chart and nothing else. -/
def Remembers (c : ChartId) (h : History) (d : Dashboard) : Prop :=
  ∀ s, d.seen.get? c = some s ↔ LastSubmission c s h

/-- Every moment keeps the memory of the last submission. -/
theorem Remembers.step {c : ChartId} {h : History} {m : Moment} (k : Remembers c h m.before) :
    Remembers c (h ++ [m]) m.after := by
  intro s
  unfold LastSubmission
  rw [since_snoc]
  cases m.recollection c with
  | submits new submitted seen =>
    rw [seen, Option.some.injEq]
    constructor
    · rintro rfl
      exact .inl submitted
    · rintro (⟨op, -, status⟩ | ⟨-, ended⟩)
      · obtain ⟨op', -, status'⟩ := submitted
        have input : new.input = s.input := by simpa [op'] using op
        cases new
        cases s
        simp_all
      · exact absurd (.inl ⟨new, submitted⟩) ended
  | discards removed seen =>
    rw [seen]
    constructor
    · intro none
      cases none
    · rintro (⟨op, -⟩ | ⟨-, ended⟩)
      · rw [removed] at op
        cases op
      · exact absurd (.inr removed) ended
  | keeps silent stays seen =>
    have quiet : ¬ ((∃ newer, m.Submits c newer) ∨ m.op = .remove c) := by
      rintro (⟨newer, submitted⟩ | removed)
      · exact silent newer submitted
      · exact stays removed
    rw [seen, k s]
    constructor
    · exact fun last => .inr ⟨last, quiet⟩
    · rintro (submitted | ⟨last, -⟩)
      · exact absurd submitted (silent s)
      · exact last

/-- A run remembers the last submission of every chart. -/
theorem Remembers.run {registry : Registry} {namer : ClassNamer} {clock : Clock}
    {sink : TelemetrySink} {hooks : Hooks} (c : ChartId) (ops : List Operation) :
    Remembers c ((Dashboard.new registry namer clock sink hooks).history ops)
      ((Dashboard.new registry namer clock sink hooks).after ops) := by
  refine Dashboard.run_induction ?_ (fun _ e op k => k.step (m := ⟨e, op⟩)) ops
  intro s
  simp [Dashboard.new, LastSubmission, not_since_nil]

/-! ## What is answered -/

theorem drawn_of_blocked {s : StatusSnapshot} {reason : SkipReason}
    (blocked : SkipReason.of? s = some reason) : DrawnUnlessBlocked s (.skipped reason) := by
  obtain ⟨status, overlay, alert⟩ := s
  unfold DrawnUnlessBlocked
  cases overlay with
  | true => simpa [SkipReason.of?] using blocked.symm
  | false =>
    cases alert with
    | some text => simpa [SkipReason.of?] using blocked.symm
    | none =>
      cases status with
      | none => simpa [SkipReason.of?] using blocked.symm
      | some s => cases s <;> simp_all [SkipReason.of?]

theorem drawn_of_clear {s : StatusSnapshot} {r : AttemptRecord} (clear : SkipReason.of? s = none) :
    DrawnUnlessBlocked s (.started r) := by
  obtain ⟨status, overlay, alert⟩ := s
  unfold DrawnUnlessBlocked
  cases overlay <;> cases alert <;> cases status with
  | none => simp [SkipReason.of?] at clear
  | some s => cases s <;> simp_all [SkipReason.of?]

/-- An input that the gate lets pass is drawn unless its status blocks it. -/
theorem obeys_of_passed {r : Registry} {last : Option SeenInput} {now : SeenInput}
    {o : SubmitOutcome}
    (passed : ∀ decision, last.map (evaluateRedraw r · now) = some decision →
      decision.isRedraw = true)
    (drawn : DrawnUnlessBlocked now.status o) : Obeys r last now o := by
  unfold Obeys
  cases decided : last.map (evaluateRedraw r · now) with
  | none => exact drawn
  | some decision =>
    cases decision with
    | typeOverride | changed _ => exact drawn
    | notReady | unchanged => exact nomatch passed _ decided

/-- An input that the gate withholds is answered with the decision. -/
theorem obeys_of_held {r : Registry} {last : Option SeenInput} {now : SeenInput}
    {decision : RedrawDecision} (decided : last.map (evaluateRedraw r · now) = some decision)
    (held : decision.isRedraw = false) : Obeys r last now (.withheld decision) := by
  unfold Obeys
  rw [decided]
  cases decision with
  | typeOverride | changed _ => exact nomatch held
  | notReady | unchanged => rfl

/-- A submitted input is answered by the rules, with what the dashboard remembers as the last input. -/
theorem obeys_submit (d : Dashboard) (i : RenderInput) :
    Obeys d.registry (d.seen.get? i.chart) ⟨i, d.board.snapshot i.chart⟩ (d.submit i).value := by
  cases d.submission i with
  | withheld decision decided held outcome =>
    rw [outcome]
    exact obeys_of_held decided held
  | skipped reason passed blocked outcome =>
    rw [outcome]
    exact obeys_of_passed passed (drawn_of_blocked blocked)
  | started passed clear outcome =>
    rw [outcome]
    exact obeys_of_passed passed (drawn_of_clear clear)

/-- What is ready to be displayed can only be kept from being drawn by an alert. -/
theorem eq_alert_of_ready {s : SeenInput} {reason : SkipReason} (ready : s.isReady = true)
    (drawn : DrawnUnlessBlocked s.status (.skipped reason)) : reason = .alert := by
  obtain ⟨input, status, overlay, alert⟩ := s
  obtain ⟨⟨⟨-, displayable⟩, -⟩, uncovered⟩ : ((input.result.isSome = true ∧
      status.any (·.isDisplayable) = true) ∧ input.resultFailed = false) ∧ overlay = false := by
    simpa [SeenInput.isReady] using ready
  subst uncovered
  cases alert with
  | some text => simpa [DrawnUnlessBlocked] using drawn
  | none =>
    cases status with
    | none => exact nomatch displayable
    | some s =>
      cases s with
      | loading => exact nomatch displayable
      | _ => simp [DrawnUnlessBlocked] at drawn

/-- Topics are looked at for ready inputs only. -/
theorem ready_of_changed {r : Registry} {last now : SeenInput} {topics : RedrawTopics}
    (changed : evaluateRedraw r last now = .changed topics) : now.isReady = true := by
  unfold evaluateRedraw at changed
  by_cases ready : now.isReady = true
  · exact ready
  · by_cases override : r.redrawsAlways now.input.vizType = true <;> simp [override, ready] at changed

/-- An input that is submitted after any run is answered by the last submission of its chart in the
history, and by the rules for a first input where there is none. An input that has changed can only be
skipped because of an alert. -/
theorem submission_obeys_history (registry : Registry) (namer : ClassNamer) (clock : Clock)
    (sink : TelemetrySink) (hooks : Hooks) (ops : List Operation) (i : RenderInput) :
    let d := (Dashboard.new registry namer clock sink hooks).after ops
    let h := (Dashboard.new registry namer clock sink hooks).history ops
    let now : SeenInput := ⟨i, d.board.snapshot i.chart⟩
    ∃ o, (d.step (.submit i)).2.answer = .submitted o ∧
      (∀ last, LastSubmission i.chart last h → Obeys d.registry (some last) now o) ∧
      ((∀ last, ¬ LastSubmission i.chart last h) → Obeys d.registry none now o) ∧
      (∀ last topics reason, LastSubmission i.chart last h →
        evaluateRedraw d.registry last now = .changed topics → o = .skipped reason →
          reason = .alert) := by
  intro d h now
  have remembers : Remembers i.chart h d := Remembers.run i.chart ops
  have obeys : Obeys d.registry (d.seen.get? i.chart) now (d.submit i).value := obeys_submit d i
  refine ⟨(d.submit i).value, rfl, ?_, ?_, ?_⟩
  · intro last submitted
    rw [(remembers last).2 submitted] at obeys
    exact obeys
  · intro first
    have unseen : d.seen.get? i.chart = none := by
      rw [Option.eq_none_iff_forall_ne_some]
      exact fun last seen => first last ((remembers last).1 seen)
    rw [unseen] at obeys
    exact obeys
  · intro last topics reason submitted changed skipped
    rw [(remembers last).2 submitted, skipped] at obeys
    have drawn : DrawnUnlessBlocked now.status (.skipped reason) := by
      simpa only [Obeys, Option.map_some, changed] using obeys
    exact eq_alert_of_ready (ready_of_changed changed) drawn

end Redraw
