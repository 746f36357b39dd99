import Redraw.Proofs.Gate.Resubmission

/-!
# Types that are always redrawn

The gate and the engine look up how a chart is drawn apart from each other. The gate goes by the input's own
type. The request goes by the type that the form names, and by the input's own where the form names none. So
the gate lets everything pass that is drawn by a strategy which always redraws, as long as the form does not
name another type. Where it does, a chart may be relabeled by the strategy of one type and held back as one
of another.
-/

namespace Redraw

/-- The form names no type, or the input's own. -/
def RenderInput.NamesOwnType (i : RenderInput) : Prop := ∀ tag, i.form.vizType? = some tag → tag = i.vizType.tag

/-- The request is for the engine of a strategy, and its form is relabeled by the rule of the strategy. -/
structure DrawRequest.DrawnBy (q : DrawRequest) (i : RenderInput) (s : Strategy) : Prop where
  engine : q.engine = s.engine
  form : q.form = (i.form.relabeled? s.metricLabel).getD i.form
  relabeled : q.relabeled = (i.form.relabeled? s.metricLabel).isSome

/-- Looking up whether a type is always redrawn, and looking up its strategy, comes to the same. -/
theorem Registry.alwaysRedraw_resolve (r : Registry) (v : VizType) :
    (r.resolve v).alwaysRedraw = r.redrawsAlways v := by
  unfold resolve redrawsAlways
  cases r.get? v <;> rfl

/-- A form that names no other type leaves the input's own to be looked up. -/
theorem RenderInput.NamesOwnType.strategyType_eq {i : RenderInput} (own : i.NamesOwnType) :
    DrawRequest.strategyType i = i.vizType := by
  unfold DrawRequest.strategyType
  cases named : i.form.vizType? with
  | none => rfl
  | some tag => exact congrArg VizType.mk (own tag named)

theorem DrawRequest.drawnBy_build (r : Registry) (namer : ClassNamer) (i : RenderInput)
    (a : AttemptId) : (build r namer i a).DrawnBy i (r.resolve (strategyType i)) :=
  ⟨rfl, rfl, rfl⟩

/-- The gate passes over everything else for the types that are always redrawn, and for no others. -/
theorem evaluateRedraw_eq_typeOverride {r : Registry} {previous next : SeenInput} :
    evaluateRedraw r previous next = .typeOverride ↔
      (r.resolve next.input.vizType).alwaysRedraw = true := by
  rw [r.alwaysRedraw_resolve]
  constructor
  · intro override
    by_contra ordinary
    have ordinary := Bool.eq_false_iff.2 ordinary
    cases ready : next.isReady with
    | true =>
      rw [evaluateRedraw_of_ready ordinary ready] at override
      split at override <;> exact nomatch override
    | false =>
      rw [evaluateRedraw_of_unready ordinary ready] at override
      exact nomatch override
  · exact evaluateRedraw_of_always

/-- An input of a type that is always redrawn is never withheld. -/
theorem Dashboard.not_withheld_of_always {d : Dashboard} {i : RenderInput}
    (always : (d.registry.resolve i.vizType).alwaysRedraw = true) (decision : RedrawDecision) :
    (d.step (.submit i)).2.answer ≠ .submitted (.withheld decision) := by
  have answer : (d.step (.submit i)).2.answer = .submitted (d.submit i).value := rfl
  rw [answer]
  cases d.submission i with
  | withheld held decided isHeld _ =>
    obtain ⟨previous, -, evaluated⟩ := Option.map_eq_some_iff.1 decided
    rw [evaluateRedraw_eq_typeOverride.2 always] at evaluated
    subst evaluated
    exact nomatch isHeld
  | skipped _ _ _ outcome | started _ _ outcome =>
    rw [outcome]
    exact nofun

/-- The request for an input is drawn by the strategy of the type that its form names, or else of its own.
The gate passes over everything else exactly if the strategy of the input's own type always redraws. Where the
form does not name another type, that is the strategy that the request is drawn by. So if this one always
redraws, the gate passes over everything else, whatever the input before and the statuses are, and no
dashboard with the registry withholds the input. -/
theorem own_type_decides_override (r : Registry) (namer : ClassNamer) (previous next : SeenInput)
    (a : AttemptId) :
    let i := next.input
    let s := r.resolve (DrawRequest.strategyType i)
    (DrawRequest.build r namer i a).DrawnBy i s ∧
    (evaluateRedraw r previous next = .typeOverride ↔ (r.resolve i.vizType).alwaysRedraw = true) ∧
    (i.NamesOwnType →
      (s.alwaysRedraw = true ↔ evaluateRedraw r previous next = .typeOverride) ∧
      (s.alwaysRedraw = true → ∀ d : Dashboard, d.registry = r → ∀ decision,
        (d.step (.submit i)).2.answer ≠ .submitted (.withheld decision))) := by
  intro i s
  refine ⟨DrawRequest.drawnBy_build r namer i a, evaluateRedraw_eq_typeOverride, fun own => ?_⟩
  have same : s = r.resolve i.vizType := congrArg r.resolve own.strategyType_eq
  rw [same]
  refine ⟨evaluateRedraw_eq_typeOverride.symm, ?_⟩
  rintro always d rfl
  exact Dashboard.not_withheld_of_always always

/-- An input of a chart whose form names a type, and picks a financial metric. -/
def RenderInput.naming (tag : String) (i : RenderInput) : RenderInput :=
  { i with form := .ofList [("viz_type", .ofString tag), ("fin_metric_picker", .ofString "IRR")] }

/-- A box plot that is named by its form passes even while its chart is loading. -/
theorem named_box_plot_passes :
    let i := ({ RenderInput.plain ⟨7⟩ with vizType := ⟨"box_plot_fin"⟩ }).naming "box_plot_fin"
    let s := Registry.builtin.resolve (DrawRequest.strategyType i)
    let d := Dashboard.new .builtin .default { epoch := 0 } .recording {}
    i.NamesOwnType ∧ s.alwaysRedraw = true ∧
      evaluateRedraw .builtin ⟨i, {}⟩ ⟨i, .plain .loading⟩ = .typeOverride ∧
      ∀ decision, (d.step (.submit i)).2.answer ≠ .submitted (.withheld decision) := by
  intro i s d
  have own : i.NamesOwnType := fun tag named => (Option.some.inj named).symm
  have always : s.alwaysRedraw = true := rfl
  have passes := (own_type_decides_override .builtin .default ⟨i, {}⟩ ⟨i, .plain .loading⟩ ⟨1⟩).2.2 own
  exact ⟨own, always, passes.1.1 always, passes.2 always d rfl⟩

/-- A line chart whose form names a box plot is relabeled by a strategy that always redraws. The gate does not
know this strategy, and withholds the chart as unchanged when it is submitted again. -/
theorem relabeled_line_can_be_withheld :
    let i := (RenderInput.loaded ⟨7⟩).naming "box_plot_fin"
    let d := (Dashboard.new .builtin .default { epoch := 0 } .recording {}).after
      [.setStatus ⟨7⟩ (some .success), .submit i]
    (d.registry.resolve (DrawRequest.strategyType i)).alwaysRedraw = true ∧
      (d.drawRequest i ⟨2⟩).relabeled = true ∧
      evaluateRedraw d.registry ⟨i, .plain .success⟩ ⟨i, d.board.snapshot ⟨7⟩⟩ ≠ .typeOverride ∧
      (d.step (.submit i)).2.answer = .submitted (.withheld .unchanged) := by
  refine ⟨rfl, rfl, ?_, rfl⟩
  exact fun override => nomatch override

end Redraw
