import Redraw.Chart.ClassName
import Redraw.Strategy.Registry

/-!
# Render configuration

A configuration sets up the class names and the registry of a dashboard. Its rows are registered in
order, so the first row without a tag or with the tag of an earlier row is refused.
-/

namespace Redraw

/-- One row of a configuration. -/
structure StrategyRow where
  vizType : VizType
  strategy : Strategy
deriving DecidableEq, Repr

/-- The class names and the strategies of a dashboard. -/
structure RenderConfig where
  classLead : String
  ledTags : List String
  rows : List StrategyRow
deriving DecidableEq, Repr

namespace RenderConfig

/-- The configuration of a dashboard that is not configured. -/
def default : RenderConfig where
  classLead := ClassNamer.defaultLead
  ledTags := ClassNamer.defaultLedTags
  rows := builtinStrategies.map fun (v, s) => ⟨v, s⟩

/-- The namer for the class names of the configuration. -/
def classNamer (c : RenderConfig) : ClassNamer := ⟨c.classLead, c.ledTags⟩

/-- Registers rows one after the other. -/
def registerRows (r : Registry) : List StrategyRow → Except Fault Registry
  | [] => .ok r
  | row :: rest =>
    match r.register row.vizType row.strategy with
    | .ok r => registerRows r rest
    | .error fault => .error fault

/-- The registry of the configuration, unless a row is refused. -/
def registry (c : RenderConfig) : Except Fault Registry := registerRows ∅ c.rows

end RenderConfig

end Redraw
