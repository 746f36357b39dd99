import Redraw.Chart.Form
import Redraw.Chart.Identity

/-!
# Render inputs

A `RenderInput` is everything that is needed to draw a chart once. Query results and annotations are
payloads: they are shared between inputs and compared by identity, so whoever changes the content
of a payload makes a new one.
-/

namespace Redraw

/-- A shared value with an identity. Two payloads are the same exactly if their identities are. -/
structure Payload (α : Type) where
  identity : String
  content : α

/-- Both are the same payload, or neither is there. -/
def Payload.same {α : Type} (a b : Option (Payload α)) : Bool :=
  a.map (·.identity) = b.map (·.identity)

/-- What a query returned: its data, and its error if it failed. -/
structure QueryResult where
  data : Value
  error : Option String

/-- The query failed. -/
def QueryResult.hasError (r : QueryResult) : Bool := r.error.isSome

/-- Annotation layers by name. -/
structure AnnotationData where
  layers : Value

/-- Everything that is needed to draw a chart once. `forceRender` asks for a redraw whatever else
changed. -/
structure RenderInput where
  chart : ChartId
  vizType : VizType
  viewport : Viewport
  result : Option (Payload QueryResult)
  annotations : Option (Payload AnnotationData)
  datasource : Option Value
  form : FormData
  initialValues : FormData
  forceRender : Bool
  cacheBuster : Option CacheBuster

/-- The input carries a result, and the query failed. -/
def RenderInput.resultFailed (i : RenderInput) : Bool := i.result.any (·.content.hasError)

end Redraw
