/-!
# What identifies a chart and its attempts

Identifiers are 64-bit numbers, each kind a type of its own. Attempts of a chart are numbered in the
order in which they begin.
-/

namespace Redraw

/-- A chart on the dashboard. -/
structure ChartId where
  raw : UInt64
deriving DecidableEq, Repr

/-- The element of the page that holds the chart. -/
def ChartId.elementId (c : ChartId) : String := "chart-id-" ++ toString c.raw

/-- The number of an attempt to render a chart. -/
structure AttemptId where
  raw : UInt64
deriving DecidableEq, Repr

/-- The attempt that begins after this one. -/
def AttemptId.next (a : AttemptId) : AttemptId := ⟨a.raw + 1⟩

/-- An attempt as it is named in messages. -/
def AttemptId.text (a : AttemptId) : String := "#" ++ toString a.raw

/-- How two attempts are ordered. -/
def AttemptId.compare (a b : AttemptId) : Ordering := Ord.compare a.raw b.raw

/-- A token from outside that asks for a redraw whenever it changes. -/
structure CacheBuster where
  raw : UInt64
deriving DecidableEq, Repr

/-- The size of a chart in pixels. -/
structure Viewport where
  width : UInt32
  height : UInt32
deriving DecidableEq, Repr

/-- A chart can only be drawn on an area. -/
def Viewport.isValid (v : Viewport) : Bool := 0 < v.width && 0 < v.height

theorem Viewport.isValid_iff {v : Viewport} : v.isValid = true ↔ 0 < v.width ∧ 0 < v.height := by
  simp [isValid]

/-- The tag of a visualization type, such as `table` or `box_plot_fin`. -/
structure VizType where
  tag : String
deriving DecidableEq, Repr

/-- The tag is missing. -/
def VizType.isEmpty (v : VizType) : Bool := v.tag.isEmpty

theorem VizType.isEmpty_iff {v : VizType} : v.isEmpty = true ↔ v.tag = "" := String.isEmpty_iff

end Redraw
