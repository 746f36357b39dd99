import Redraw.Chart.Form
import Redraw.Json.Text

/-!
# Metric labels

Some types label their axis by an option that the user picked and not by the metrics of the query.
A rule names the option and turns what was picked into a label; the chart is then drawn with a
form whose metrics are that label alone.
-/

namespace Redraw

/-- Which option a label comes from, and how. -/
inductive MetricLabelRule where
  | runComparison
  | financialMetric
  | financialByStrategy
deriving DecidableEq, Repr

/-- One text occurs in another. -/
def mentions (part : List Char) : List Char → Bool
  | [] => part.isEmpty
  | c :: rest => part.isPrefixOf (c :: rest) || mentions part rest

namespace MetricLabelRule

/-- The option that the label comes from. -/
def sourceOption : MetricLabelRule → String
  | runComparison => "data_type_picker"
  | financialMetric => "fin_metric_picker"
  | financialByStrategy => "fin_str_metric_picker"

/-- The labels of the data types that runs are compared by. -/
def runComparisonLabels : List (String × String) :=
  [("ForwardPrice", "Forward Price ($/MWh)"), ("SpotPrice", "Spot Price ($/MWh)"),
   ("LGCPrice", "LGC Forward Price ($/certificate)")]

/-- The label for what was picked. Data types without a label of their own label themselves, and
strategies are labeled by their unit: percent for a return on investment, otherwise dollars. -/
def labelFor (rule : MetricLabelRule) (picked : String) : String :=
  match rule with
  | runComparison => (runComparisonLabels.lookup picked).getD picked
  | financialMetric => picked
  | financialByStrategy => if mentions "ROI".toList picked.toList then "%" else "$"

/-- What was picked, as text: a text itself, any other value as JSON. -/
def pickedText (v : Value) : String := v.text?.getD v.json.compact

/-- The label of a form, unless the option is absent or null. -/
def label? (rule : MetricLabelRule) (f : FormData) : Option String :=
  match f.get? rule.sourceOption with
  | none => none
  | some v => if v.isNull then none else some (rule.labelFor (pickedText v))

end MetricLabelRule

namespace FormData

/-- The form that a rule makes of this one, where there is a rule and it yields a label. Without
one the chart is drawn with its own form. -/
def relabeled? (f : FormData) (rule : Option MetricLabelRule) : Option FormData :=
  (rule.bind (·.label? f)).map f.withMetricLabel

end FormData

end Redraw
