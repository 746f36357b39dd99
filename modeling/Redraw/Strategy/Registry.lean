import Redraw.Chart.Identity
import Redraw.Fault
import Redraw.OrderedMap
import Redraw.Strategy.MetricLabel

/-!
# Strategies

How charts of a type are drawn: whether every update redraws them, how their axis is labeled, and
which engine draws them. A registry holds the strategies of the types that differ from the
default.
-/

namespace Redraw

/-- What draws a chart: the plugin of its type, or options handed to the shared engine. -/
inductive DrawEngine where
  | plugin
  | options
deriving DecidableEq, Repr

/-- How charts of a type are drawn. -/
structure Strategy where
  alwaysRedraw : Bool := false
  metricLabel : Option MetricLabelRule := none
  engine : DrawEngine := .plugin
deriving DecidableEq, Repr

/-- The strategy of a type that is redrawn with every update. -/
def Strategy.always : Strategy := { alwaysRedraw := true }

/-- The strategies of the types that are known from the start. -/
def builtinStrategies : List (VizType × Strategy) :=
  [(⟨"box_plot_run_comp"⟩, { Strategy.always with metricLabel := some .runComparison }),
   (⟨"box_plot_fin"⟩, { Strategy.always with metricLabel := some .financialMetric }),
   (⟨"box_plot_fin_str"⟩, { Strategy.always with metricLabel := some .financialByStrategy }),
   (⟨"box_plot_300_cap"⟩, { Strategy.always with engine := .options }),
   (⟨"spot_price_histogram"⟩, { Strategy.always with engine := .options })]

/-- Strategies by type, in the order of their registration. -/
abbrev Registry := OrderedMap VizType Strategy

namespace Registry

/-- The registry of the types that are known from the start. -/
def builtin : Registry := OrderedMap.ofList builtinStrategies

/-- Registers a strategy. The type must have a tag and no strategy yet. -/
def register (r : Registry) (v : VizType) (s : Strategy) : Except Fault Registry :=
  if v.isEmpty then .error .untypedStrategy
  else if r.contains v then .error (.strategyTaken v)
  else .ok (r.insert v s)

/-- Takes a strategy away, and says whether there was one. -/
def unregister (r : Registry) (v : VizType) : Registry × Bool := (r.erase v, r.contains v)

/-- The strategy of a type, the default one where none is registered. -/
def resolve (r : Registry) (v : VizType) : Strategy := (r.get? v).getD {}

/-- Every update redraws the charts of the type. -/
def redrawsAlways (r : Registry) (v : VizType) : Bool := (r.get? v).any (·.alwaysRedraw)

end Registry

end Redraw
