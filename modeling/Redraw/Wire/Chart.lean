import Redraw.Chart.Input
import Redraw.Wire.Fields

/-!
# Charts as JSON

Identifiers are plain numbers and texts. Form data is an object that keeps the order of its options,
and a query result leaves out its error where it has none.
-/

namespace Redraw

instance : Wire ChartId where
  encode c := Json.ofUInt64 c.raw
  decode j := (Decoder.uint64 j).map ChartId.mk

instance : Wire AttemptId where
  encode a := Json.ofUInt64 a.raw
  decode j := (Decoder.uint64 j).map AttemptId.mk

instance : Wire CacheBuster where
  encode b := Json.ofUInt64 b.raw
  decode j := (Decoder.uint64 j).map CacheBuster.mk

instance : Wire VizType where
  encode v := .str v.tag
  decode j := (Decoder.string j).map VizType.mk

/-- The fields of a viewport. -/
def Viewport.fields : Fields Viewport :=
  Viewport.mk <$> .required "width" Decoder.uint32 <*> .required "height" Decoder.uint32

instance : Wire Viewport where
  encode v := .obj [("width", Json.ofUInt32 v.width), ("height", Json.ofUInt32 v.height)]
  decode := Viewport.fields.record "Viewport"

instance : Wire Value where
  encode v := v.json
  decode := Decoder.value

namespace FormData

/-- The members of an object, decoded in their order. -/
def decodeMembers : List (String × Json) → Except DecodeError (List (String × Value))
  | [] => .ok []
  | (name, j) :: rest =>
    match Decoder.value j with
    | .error e => .error e
    | .ok v =>
      match decodeMembers rest with
      | .error e => .error e
      | .ok options => .ok ((name, v) :: options)

/-- Form data from the members of an object. A repeated option keeps its first place and its last
value. -/
def decode : Decoder FormData
  | .obj members => (decodeMembers members).map OrderedMap.ofList
  | j => Decoder.mismatch "a map" j

end FormData

instance : Wire FormData where
  encode f := .obj (f.entries.map fun (name, v) => (name, v.json))
  decode := FormData.decode

/-- The fields of a query result. -/
def QueryResult.fields : Fields QueryResult :=
  QueryResult.mk <$> .withDefault "data" Value.null Decoder.value
    <*> .withDefault "error" none (Decoder.nullable Decoder.string)

instance : Wire QueryResult where
  encode r :=
    .obj (("data", r.data.json) :: (r.error.toList.map fun e => ("error", .str e)))
  decode := QueryResult.fields.record "QueryResult"

instance : Wire AnnotationData where
  encode a := a.layers.json
  decode j := (Decoder.value j).map AnnotationData.mk

end Redraw
