import Redraw.Proofs.Attempt.Completions
import Redraw.Proofs.Gate.Changes
import Redraw.Proofs.Gate.LastSubmission

/-!
# Inputs that are submitted again

An input that is skipped begins nothing, and yet it is the last input of its chart from then on. Once nothing
stands in the way any more, what is submitted next is compared with it and not with what was drawn last. So
the skipped input itself is drawn then only if its type is always redrawn or it is forced. Every other input
that is ready is drawn exactly if it differs from the skipped one, and withheld as unchanged otherwise.
-/

namespace Redraw

/-- The results of the chart can be displayed, and nothing stands in the way of drawing it. -/
structure StatusSnapshot.Displays (s : StatusSnapshot) : Prop where
  displayable : s.status = some .success ∨ s.status = some .rendered
  uncovered : s.overlay = false
  unalerted : s.alert = none

/-- The input carries the result of a query that has not failed. -/
def RenderInput.Loaded (i : RenderInput) : Prop := ∃ q, i.result = some q ∧ q.content.error = none

/-- The operation neither submits an input of the chart nor removes the chart. -/
def Operation.KeepsLast (op : Operation) (c : ChartId) : Prop :=
  (∀ i, op = .submit i → i.chart ≠ c) ∧ op ≠ .remove c

/-- What is answered to an input that is ready while nothing stands in its way: it begins an attempt if it is
worth a redraw after the last one, and is withheld as unchanged otherwise. -/
def DrawnIfChanged (r : Registry) (last next : RenderInput) (answer : Answer) : Prop :=
  (r.Redraws last next → ∃ record, answer = .submitted (.started record)) ∧
  (¬ r.Redraws last next → answer = .submitted (.withheld .unchanged))

namespace StatusSnapshot.Displays

variable {s : StatusSnapshot}

theorem unskipped (k : s.Displays) : SkipReason.of? s = none := by
  obtain ⟨displayable, uncovered, unalerted⟩ := k
  unfold SkipReason.of?
  rw [uncovered, unalerted]
  rcases displayable with status | status <;> simp [status]

/-- Results that have not failed are ready to be displayed. -/
theorem ready (k : s.Displays) {i : RenderInput} (loaded : i.Loaded) :
    (⟨i, s⟩ : SeenInput).isReady = true := by
  obtain ⟨displayable, uncovered, -⟩ := k
  obtain ⟨q, result, unfailed⟩ := loaded
  have shown : s.status.any (·.isDisplayable) = true := by
    rcases displayable with status | status <;> rw [status] <;> rfl
  simp [SeenInput.isReady, RenderInput.resultFailed, QueryResult.hasError, result, unfailed, shown,
    uncovered]

end StatusSnapshot.Displays

/-! ## The last input -/

namespace Dashboard

variable {d : Dashboard} {c : ChartId}

/-- The last input of a chart stays the last one until another is submitted or the chart is removed. -/
theorem seen_of_kept {ops : List Operation} (kept : ∀ op ∈ ops, op.KeepsLast c) :
    (d.after ops).seen.get? c = d.seen.get? c := by
  induction ops generalizing d with
  | nil => rfl
  | cons op rest ih =>
    obtain ⟨silent, stays⟩ := kept op List.mem_cons_self
    rw [after_cons, ih fun o member => kept o (List.mem_cons_of_mem _ member)]
    cases (⟨d, op⟩ : Moment).recollection c with
    | submits s submitted _ => exact absurd submitted.2.1 (silent s.input submitted.1)
    | discards removed _ => exact absurd removed stays
    | keeps _ _ seen => exact seen

/-- An input that is skipped changes nothing but the last input of its chart. -/
theorem step_skipped {i : RenderInput} {reason : SkipReason}
    (skipped : (d.step (.submit i)).2.answer = .submitted (.skipped reason)) :
    (d.step (.submit i)).1 =
      { d with seen := d.seen.insert i.chart ⟨i, d.board.snapshot i.chart⟩ } := by
  have answer : (d.step (.submit i)).2.answer = .submitted (d.submit i).value := rfl
  have after : (d.step (.submit i)).1 = (d.submit i).dashboard := rfl
  rw [answer] at skipped
  cases d.submission i with
  | withheld _ _ _ outcome | started _ _ outcome =>
    rw [outcome] at skipped
    exact nomatch skipped
  | skipped _ _ _ outcome =>
    rw [after, outcome]

/-- While nothing stands in the way, an input that is ready goes by whether it differs from the last one. -/
theorem drawn_if_changed {j : RenderInput} {last : SeenInput} (seen : d.seen.get? j.chart = some last)
    (displays : (d.board.snapshot j.chart).Displays) (loaded : j.Loaded) :
    DrawnIfChanged d.registry last.input j (d.step (.submit j)).2.answer := by
  have answer : (d.step (.submit j)).2.answer = .submitted (d.submit j).value := rfl
  have ready : (⟨j, d.board.snapshot j.chart⟩ : SeenInput).isReady = true := displays.ready loaded
  have decided : d.decision? j = some (evaluateRedraw d.registry last ⟨j, d.board.snapshot j.chart⟩) := by
    unfold decision?
    rw [seen, Option.map_some]
  have passes : (evaluateRedraw d.registry last ⟨j, d.board.snapshot j.chart⟩).isRedraw = true ↔
      d.registry.Redraws last.input j := isRedraw_of_ready ready
  rw [answer]
  cases d.submission j with
  | withheld decision held isHeld outcome =>
    obtain rfl := Option.some.inj (decided.symm.trans held)
    have same : ¬ d.registry.Redraws last.input j := by
      rw [← passes, isHeld]
      exact Bool.false_ne_true
    rw [outcome, eq_unchanged_of_ready ready isHeld]
    exact ⟨fun changed => absurd changed same, fun _ => rfl⟩
  | skipped reason _ blocked _ =>
    rw [displays.unskipped] at blocked
    exact nomatch blocked
  | started passed _ outcome =>
    have changed : d.registry.Redraws last.input j := passes.1 (passed _ decided)
    rw [outcome]
    exact ⟨fun _ => ⟨_, rfl⟩, fun same => absurd changed same⟩

end Dashboard

/-! ## Runs -/

/-- Take any run, and an input that is submitted after it and skipped. It changes nothing but the last input
of its chart. Then let anything be done but submitting inputs of the chart and removing it, until the results
of the chart can be displayed and nothing stands in the way of drawing it. An input of the chart that carries
results and is submitted then begins an attempt if its type is always redrawn or it differs from the skipped
one, and is withheld as unchanged otherwise. So the skipped input itself, submitted again, begins an attempt
exactly if its type is always redrawn or it is forced. -/
theorem skipped_input_needs_a_change (registry : Registry) (namer : ClassNamer) (clock : Clock)
    (sink : TelemetrySink) (hooks : Hooks) (ops between : List Operation) (i : RenderInput)
    (reason : SkipReason) :
    let d := (Dashboard.new registry namer clock sink hooks).after ops
    let e := (d.step (.submit i)).1.after between
    (d.step (.submit i)).2.answer = .submitted (.skipped reason) →
    (∀ op ∈ between, op.KeepsLast i.chart) → (e.board.snapshot i.chart).Displays →
    (d.step (.submit i)).1 =
      { d with seen := d.seen.insert i.chart ⟨i, d.board.snapshot i.chart⟩ } ∧
    (∀ j, j.chart = i.chart → j.Loaded →
      DrawnIfChanged e.registry i j (e.step (.submit j)).2.answer) ∧
    (i.Loaded →
      ((∃ r, (e.step (.submit i)).2.answer = .submitted (.started r)) ↔
        e.registry.redrawsAlways i.vizType = true ∨ i.forceRender = true)) := by
  intro d e skipped kept displays
  have step := Dashboard.step_skipped skipped
  have seen : e.seen.get? i.chart = some ⟨i, d.board.snapshot i.chart⟩ := by
    rw [Dashboard.seen_of_kept kept, step, OrderedMap.get?_insert, if_pos rfl]
  have answered (j : RenderInput) (own : j.chart = i.chart) (loaded : j.Loaded) :
      DrawnIfChanged e.registry i j (e.step (.submit j)).2.answer := by
    rw [← own] at seen displays
    exact Dashboard.drawn_if_changed seen displays loaded
  refine ⟨step, answered, fun loaded => ?_⟩
  obtain ⟨drawn, held⟩ := answered i rfl loaded
  rw [← i.exists_differs_self]
  constructor
  · rintro ⟨r, started⟩
    by_contra same
    rw [held same] at started
    exact nomatch started
  · exact drawn

/-- A forced input is skipped while its chart is loading, and drawn when it is submitted again. -/
theorem skipped_input_drawn_by_force :
    let i : RenderInput := { RenderInput.loaded ⟨7⟩ with forceRender := true }
    let d := Dashboard.blank.after [.setStatus ⟨7⟩ (some .loading)]
    let e := (d.step (.submit i)).1.after [.setStatus ⟨7⟩ (some .success)]
    (d.step (.submit i)).2.answer = .submitted (.skipped .loading) ∧
      (e.board.snapshot ⟨7⟩).Displays ∧ i.Loaded ∧
      ∃ r, (e.step (.submit i)).2.answer = .submitted (.started r) := by
  intro i d e
  have displays : (e.board.snapshot ⟨7⟩).Displays := ⟨.inl rfl, rfl, rfl⟩
  have loaded : i.Loaded := ⟨⟨"rows", ⟨.null, none⟩⟩, rfl, rfl⟩
  have kept : ∀ op ∈ [Operation.setStatus ⟨7⟩ (some .success)], op.KeepsLast ⟨7⟩ := by
    simp [Operation.KeepsLast]
  have again := skipped_input_needs_a_change ∅ .default { epoch := 0 } .recording {}
    [.setStatus ⟨7⟩ (some .loading)] [.setStatus ⟨7⟩ (some .success)] i .loading rfl kept displays
  exact ⟨rfl, displays, loaded, (again.2.2 loaded).2 (.inr rfl)⟩

/-- It is not so that every input which is skipped begins an attempt once nothing stands in the way any more
and it is submitted again: one that is skipped while its chart is loading is withheld then as unchanged. -/
theorem skipped_input_can_stay_undrawn :
    ¬ ∀ (ops between : List Operation) (i : RenderInput) (reason : SkipReason),
      let d := Dashboard.blank.after ops
      let e := (d.step (.submit i)).1.after between
      (d.step (.submit i)).2.answer = .submitted (.skipped reason) →
      (∀ op ∈ between, op.isHost = true ∨ op.callback?.isSome = true) →
      (e.board.snapshot i.chart).Displays → i.Loaded →
      ∃ r, (e.step (.submit i)).2.answer = .submitted (.started r) := by
  intro drawn
  obtain ⟨r, started⟩ := drawn [.setStatus ⟨7⟩ (some .loading)] [.setStatus ⟨7⟩ (some .success)]
    (.loaded ⟨7⟩) .loading rfl (by simp [Operation.isHost]) ⟨.inl rfl, rfl, rfl⟩
    ⟨⟨"rows", ⟨.null, none⟩⟩, rfl, rfl⟩
  exact nomatch started

end Redraw
