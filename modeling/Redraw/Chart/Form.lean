import Redraw.Json.Value
import Redraw.OrderedMap

/-!
# Form data

The options that a user set for a chart, by name, in the order in which they were set. Three of them
mean something to the rendering itself: the color scheme, the metrics and the visualization type.
-/

namespace Redraw

/-- Option names with their values, in order of arrival. -/
abbrev FormData := OrderedMap String Value

namespace FormData

/-- The option that holds the color scheme. -/
def colorSchemeName : String := "color_scheme"

/-- The option that holds the metrics. -/
def metricsName : String := "metrics"

/-- The option that holds the visualization type. -/
def vizTypeName : String := "viz_type"

/-- The text of an option that holds one. -/
def text? (f : FormData) (name : String) : Option String := (f.get? name).bind Value.text?

/-- The color scheme. -/
def colorScheme? (f : FormData) : Option Value := f.get? colorSchemeName

/-- The metrics. -/
def metrics? (f : FormData) : Option Value := f.get? metricsName

/-- The visualization type, where the option holds a text. -/
def vizType? (f : FormData) : Option String := f.text? vizTypeName

/-- The form with a single label in place of its metrics. -/
def withMetricLabel (f : FormData) (label : String) : FormData :=
  f.insert metricsName (Value.ofList [Value.ofString label])

end FormData

end Redraw
