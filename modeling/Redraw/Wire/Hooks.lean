import Redraw.Dashboard.Hooks
import Redraw.Wire.Chart

/-!
# Filter requests as JSON

A filter is merged and the dashboard refreshed unless the request says otherwise.
-/

namespace Redraw

/-- The fields of a request to add a filter. -/
def AddFilterRequest.fields : Fields AddFilterRequest :=
  AddFilterRequest.mk <$> .required "column" Decoder.string
    <*> .required "values" (Decoder.list Decoder.value)
    <*> .withDefault "merge" true Decoder.bool <*> .withDefault "refresh" true Decoder.bool

instance : Wire AddFilterRequest where
  encode r :=
    .obj [("column", .str r.column), ("values", .arr (r.values.map (·.json))),
      ("merge", .bool r.merge), ("refresh", .bool r.refresh)]
  decode := AddFilterRequest.fields.record "AddFilterRequest"

end Redraw
