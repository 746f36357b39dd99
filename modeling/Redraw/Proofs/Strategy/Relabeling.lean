import Redraw.Proofs.Gate.LastSubmission

/-!
# Relabeled forms

A label comes from one option of a form and goes into another one, the metrics. So relabeling touches the
metrics only, and a form that is relabeled already stays as it is. Where nothing was picked that a label could
come from, there is no new form and the chart is drawn with its own.
-/

namespace Redraw

/-- Nothing was picked in a form that the rule could make a label of. -/
def MetricLabelRule.Unpicked (r : MetricLabelRule) (f : FormData) : Prop :=
  f.get? r.sourceOption = none ∨ f.get? r.sourceOption = some .null

/-- The form `g` is the form `f` with a label for its metrics. They keep their place among the options, or come
last where there were none. -/
structure FormData.Relabels (f g : FormData) (label : String) : Prop where
  keys : g.keys = if metricsName ∈ f.keys then f.keys else f.keys ++ [metricsName]
  others : ∀ name, name ≠ metricsName → g.get? name = f.get? name
  metrics : g.metrics? = some (.ofList [.ofString label])

theorem Value.isNull_iff {v : Value} : v.isNull = true ↔ v = .null := by
  constructor
  · intro holds
    unfold isNull at holds
    split at holds
    · next json => exact Value.ext json
    · cases holds
  · rintro rfl
    rfl

namespace MetricLabelRule

variable {r : MetricLabelRule} {f g : FormData}

/-- There is no label exactly where nothing was picked. -/
theorem label?_eq_none : r.label? f = none ↔ r.Unpicked f := by
  unfold label? Unpicked
  cases picked : f.get? r.sourceOption with
  | none => simp
  | some v => simp [Value.isNull_iff]

/-- A label depends on nothing but what was picked. -/
theorem label?_congr (same : g.get? r.sourceOption = f.get? r.sourceOption) : r.label? g = r.label? f := by
  unfold label?
  rw [same]

/-- No rule makes its label of the metrics. -/
theorem sourceOption_ne_metricsName (r : MetricLabelRule) : r.sourceOption ≠ FormData.metricsName := by
  cases r <;> decide

end MetricLabelRule

namespace FormData

variable {f g : FormData} {label : String}

/-- Writing a label into the metrics relabels the form. -/
theorem relabels_withMetricLabel (f : FormData) (label : String) :
    f.Relabels (f.withMetricLabel label) label where
  keys := f.keys_insert metricsName _
  others name other := by rw [withMetricLabel, OrderedMap.get?_insert, if_neg (Ne.symm other)]
  metrics := by rw [metrics?, withMetricLabel, OrderedMap.get?_insert, if_pos rfl]

theorem relabeled?_eq_some {rule : Option MetricLabelRule} :
    f.relabeled? rule = some g ↔
      ∃ r label, rule = some r ∧ r.label? f = some label ∧ g = f.withMetricLabel label := by
  simp only [relabeled?, Option.map_eq_some_iff, Option.bind_eq_some_iff]
  constructor
  · rintro ⟨label, ⟨r, rfl, labeled⟩, rfl⟩
    exact ⟨r, label, rfl, labeled, rfl⟩
  · rintro ⟨r, label, rfl, labeled, rfl⟩
    exact ⟨label, ⟨r, rfl, labeled⟩, rfl⟩

/-- There is no new form exactly where there is no rule or nothing was picked for it. -/
theorem relabeled?_eq_none {rule : Option MetricLabelRule} :
    f.relabeled? rule = none ↔ ∀ r, rule = some r → r.Unpicked f := by
  simp only [relabeled?, Option.map_eq_none_iff, Option.bind_eq_none_iff, MetricLabelRule.label?_eq_none]

/-- The metrics of a relabeled form are its label already, and its label is that of the form it came from. -/
theorem relabeled?_again {r : MetricLabelRule} (labeled : r.label? f = some label) :
    (f.withMetricLabel label).relabeled? (some r) = some (f.withMetricLabel label) := by
  have made := f.relabels_withMetricLabel label
  have same : r.label? (f.withMetricLabel label) = some label :=
    (r.label?_congr (made.others _ r.sourceOption_ne_metricsName)).trans labeled
  have written : (f.withMetricLabel label).withMetricLabel label = f.withMetricLabel label :=
    OrderedMap.insert_found made.metrics
  exact relabeled?_eq_some.2 ⟨r, label, rfl, same, written.symm⟩

end FormData

/-- There is no new form where there is no rule, or where the option of the rule is absent or null. Otherwise the
new form has the options of the old one in the same order, its metrics hold the label and nothing else, and
relabeling it again leads to the same form. Forms with the same value for the option of a rule get the same
label. A request says whether its form is a new one, and the input is remembered with the form that it came
with. -/
theorem relabeling_touches_metrics_only (f : FormData) (rule : Option MetricLabelRule) :
    (f.relabeled? rule = none ↔ ∀ r, rule = some r → r.Unpicked f) ∧
    (∀ g, f.relabeled? rule = some g → ∃ r label, rule = some r ∧ r.label? f = some label ∧
      f.Relabels g label ∧ g.relabeled? rule = some g) ∧
    (∀ (r : MetricLabelRule) (g : FormData), g.get? r.sourceOption = f.get? r.sourceOption →
      r.label? g = r.label? f) ∧
    ∀ (d : Dashboard) (i : RenderInput) (a : AttemptId), i.form = f →
      (d.registry.resolve (DrawRequest.strategyType i)).metricLabel = rule →
      (d.drawRequest i a).relabeled = (f.relabeled? rule).isSome ∧
      (d.drawRequest i a).form = (f.relabeled? rule).getD f ∧
      ((d.step (.submit i)).1.seen.get? i.chart).map (·.input.form) = some f := by
  refine ⟨FormData.relabeled?_eq_none, ?_, fun r g => MetricLabelRule.label?_congr, ?_⟩
  · intro g relabeled
    obtain ⟨r, label, rfl, labeled, rfl⟩ := FormData.relabeled?_eq_some.1 relabeled
    exact ⟨r, label, rfl, labeled, f.relabels_withMetricLabel label, FormData.relabeled?_again labeled⟩
  · rintro d i a rfl rfl
    have seen : (d.step (.submit i)).1.seen = d.seen.insert i.chart ⟨i, d.board.snapshot i.chart⟩ :=
      Moment.seen_submit d i
    refine ⟨rfl, rfl, ?_⟩
    rw [seen, OrderedMap.get?_insert, if_pos rfl]
    rfl

/-- Metrics that stand before the option they are relabeled by stay there. -/
theorem relabeled_metrics_keep_their_place :
    let f : FormData := .ofList [("metrics", .ofString "count"), ("fin_str_metric_picker", .ofString "5yr ROI"),
      ("color_scheme", .null)]
    let g := f.withMetricLabel "%"
    f.relabeled? (some .financialByStrategy) = some g ∧
      g.keys = ["metrics", "fin_str_metric_picker", "color_scheme"] ∧
      g.relabeled? (some .financialByStrategy) = some g := by
  intro f g
  have relabeled : f.relabeled? (some .financialByStrategy) = some g := rfl
  have touches := (relabeling_touches_metrics_only f (some .financialByStrategy)).2.1 g relabeled
  obtain ⟨_, _, _, _, relabels, again⟩ := touches
  exact ⟨relabeled, relabels.keys, again⟩

end Redraw
