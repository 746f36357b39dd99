import Redraw.Fault
import Redraw.Telemetry.Event
import Redraw.Wire.Chart
import Redraw.Wire.Variants

/-!
# Telemetry as JSON

Events are written in an envelope that names the version of their schema. They are read from such an
envelope or, as older writers left them, without one.
-/

namespace Redraw

/-- The kinds of telemetry by name. -/
def TelemetryKind.variants : List (Variant TelemetryKind) := [.unit "render" .render]

instance : Wire TelemetryKind where
  encode k := .str k.name
  decode := Variant.decode TelemetryKind.variants

/-- The fields of a telemetry event. -/
def TelemetryEvent.fields : Fields TelemetryEvent :=
  TelemetryEvent.mk <$> .required "kind" Wire.decode <*> .required "slice_id" Wire.decode
    <*> .required "viz_type" Wire.decode <*> .required "start_offset" Decoder.float
    <*> .required "ts" Decoder.int64 <*> .required "duration" Decoder.float
    <*> .withDefault "has_err" false Decoder.bool
    <*> .withDefault "error_details" none (Decoder.nullable Decoder.string)

instance : Wire TelemetryEvent where
  encode e :=
    .obj ([("kind", Wire.encode e.kind), ("slice_id", Wire.encode e.chart),
      ("viz_type", Wire.encode e.vizType), ("start_offset", Json.ofFloat e.startOffset),
      ("ts", Json.ofInt64 e.timestamp), ("duration", Json.ofFloat e.duration),
      ("has_err", .bool e.failed)]
      ++ (e.errorDetail.toList.map fun detail => ("error_details", .str detail)))
  decode := TelemetryEvent.fields.record "TelemetryEvent"

/-- A telemetry event with the version of its schema. -/
structure TelemetryEnvelope where
  version : UInt32
  event : TelemetryEvent
deriving DecidableEq

/-- The fields of an envelope. -/
def TelemetryEnvelope.fields : Fields TelemetryEnvelope :=
  TelemetryEnvelope.mk <$> .required "schema_version" Decoder.uint32
    <*> .required "event" Wire.decode

instance : Wire TelemetryEnvelope where
  encode e := .obj [("schema_version", Json.ofUInt32 e.version), ("event", Wire.encode e.event)]
  decode := TelemetryEnvelope.fields.record "TelemetryEventJsonContractV1"

namespace TelemetryEvent

/-- The version of the schema that is written, and the only one that is read. -/
def schemaVersion : UInt32 := 1

/-- The event in its envelope, on indented lines. -/
def pretty (e : TelemetryEvent) : String := Wire.pretty (TelemetryEnvelope.mk schemaVersion e)

/-- The event in an envelope of the version that is read. -/
def ofEnvelope (text : String) : Except Fault TelemetryEvent :=
  match (Wire.read text : Except ReadError TelemetryEnvelope) with
  | .error cause => .error (.unreadableTelemetry cause)
  | .ok e => if e.version = schemaVersion then .ok e.event else .error (.unsupportedVersion e.version)

/-- The event that a text spells, with or without an envelope. If it spells neither, the fault is
that of the envelope. -/
def read (text : String) : Except Fault TelemetryEvent :=
  match Wire.read text with
  | .ok e => .ok e
  | .error _ => ofEnvelope text

end TelemetryEvent

end Redraw
