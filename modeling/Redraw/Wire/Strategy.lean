import Redraw.Strategy.Config
import Redraw.Wire.Chart
import Redraw.Wire.Variants

/-!
# Strategies and configurations as JSON

The row of a configuration writes the fields of its strategy beside its type. All that stands in a row
besides the type is held until the row ends.
-/

namespace Redraw

/-- The name of a metric label rule. -/
def MetricLabelRule.name : MetricLabelRule → String
  | runComparison => "run_comparison"
  | financialMetric => "financial_metric"
  | financialByStrategy => "financial_by_strategy"

/-- The metric label rules by name. -/
def MetricLabelRule.variants : List (Variant MetricLabelRule) :=
  [.unit "run_comparison" .runComparison, .unit "financial_metric" .financialMetric,
   .unit "financial_by_strategy" .financialByStrategy]

instance : Wire MetricLabelRule where
  encode r := .str r.name
  decode := Variant.decode MetricLabelRule.variants

/-- The name of an engine. -/
def DrawEngine.name : DrawEngine → String
  | plugin => "plugin"
  | options => "options"

/-- The engines by name. -/
def DrawEngine.variants : List (Variant DrawEngine) :=
  [.unit "plugin" .plugin, .unit "options" .options]

instance : Wire DrawEngine where
  encode e := .str e.name
  decode := Variant.decode DrawEngine.variants

namespace Strategy

/-- The fields of a strategy, with the decoders for its alternatives. -/
def fieldsWith (rule : Decoder MetricLabelRule) (engine : Decoder DrawEngine) : Fields Strategy :=
  Strategy.mk <$> .withDefault "always_redraw" false Decoder.bool
    <*> .withDefault "metric_label" none (Decoder.nullable rule)
    <*> .withDefault "engine" .plugin engine

/-- The fields of a strategy that is read at once. -/
def fields : Fields Strategy :=
  fieldsWith (Variant.decode MetricLabelRule.variants) (Variant.decode DrawEngine.variants)

/-- The fields of a strategy that was held until its row ended. -/
def heldFields : Fields Strategy :=
  fieldsWith (Variant.decodeHeld MetricLabelRule.variants) (Variant.decodeHeld DrawEngine.variants)

/-- The members of a strategy. -/
def members (s : Strategy) : List (String × Json) :=
  [("always_redraw", .bool s.alwaysRedraw),
   ("metric_label", Json.ofString? (s.metricLabel.map (·.name))), ("engine", .str s.engine.name)]

end Strategy

instance : Wire Strategy where
  encode s := .obj s.members
  decode := Strategy.fields.record "VizStrategy"

/-- A row of a configuration. Its type is decoded as it comes, its strategy after it. -/
def StrategyRow.decode : Decoder StrategyRow
  | .obj members => do
    let vizType ← (Fields.required "viz_type" Wire.decode).ofMembers members
    if !Json.readableMembers members then .error .unexpected
    let strategy ← Strategy.heldFields.ofMembers members
    return ⟨vizType, strategy⟩
  | j => Decoder.mismatch "struct VizStrategyEntry" j

instance : Wire StrategyRow where
  encode r := .obj (("viz_type", .str r.vizType.tag) :: r.strategy.members)
  decode := StrategyRow.decode

/-- The fields of a configuration. -/
def RenderConfig.fields : Fields RenderConfig :=
  RenderConfig.mk
    <$> .withDefault "legacy_class_prefix" RenderConfig.default.classLead Decoder.string
    <*> .withDefault "legacy_prefixed_viz_types" RenderConfig.default.ledTags
      (Decoder.list Decoder.string)
    <*> .withDefault "strategies" RenderConfig.default.rows (Decoder.list Wire.decode)

instance : Wire RenderConfig where
  encode c :=
    .obj [("legacy_class_prefix", .str c.classLead),
      ("legacy_prefixed_viz_types", .arr (c.ledTags.map .str)),
      ("strategies", .arr (c.rows.map Wire.encode))]
  decode := RenderConfig.fields.record "ChartRenderConfig"

/-- The configuration that a text spells. -/
def RenderConfig.read (text : String) : Except Fault RenderConfig :=
  match Wire.read text with
  | .ok c => .ok c
  | .error cause => .error (.unreadableConfig cause)

end Redraw
