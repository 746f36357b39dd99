import Redraw.Chart.Identity
import Redraw.Text.Words

/-!
# Class names

The class of a chart's container is the tag of its type in snake case. Some types have a class that
clashes with older style sheets; these get a lead in front.
-/

namespace Redraw

/-- Which tags get the lead, and what it is. -/
structure ClassNamer where
  lead : String
  ledTags : List String
deriving DecidableEq, Repr

namespace ClassNamer

/-- The lead that older style sheets expect. -/
def defaultLead : String := "superset-chart-"

/-- The tags that clash with older style sheets. -/
def defaultLedTags : List String := ["table"]

/-- The namer for the older style sheets. -/
def default : ClassNamer := ⟨defaultLead, defaultLedTags⟩

/-- The class name of a type. The list is searched for the tag itself, not for its snake case. -/
def className (n : ClassNamer) (v : VizType) : String :=
  let snake := Text.snakeCase v.tag
  if v.tag ∈ n.ledTags then n.lead ++ snake else snake

end ClassNamer

end Redraw
