import Redraw.Attempt.Record
import Redraw.Wire.Chart
import Redraw.Wire.Gate
import Redraw.Wire.Status

/-!
# Attempts and events as JSON

Alternatives that carry something are objects with the name of the alternative as their only member.
-/

namespace Redraw

/-- The fields of an attempt record. -/
def AttemptRecord.fields : Fields AttemptRecord :=
  AttemptRecord.mk <$> .required "chart_id" Wire.decode <*> .required "attempt" Wire.decode
    <*> .required "viz_type" Wire.decode <*> .required "started_at_ms" Decoder.float
    <*> .required "result_change_triggered" Decoder.bool

instance : Wire AttemptRecord where
  encode r :=
    .obj [("chart_id", Wire.encode r.chart), ("attempt", Wire.encode r.attempt),
      ("viz_type", Wire.encode r.vizType), ("started_at_ms", Json.ofFloat r.startedAt),
      ("result_change_triggered", .bool r.resultChanged)]
  decode := AttemptRecord.fields.record "LifecycleRecord"

/-- The phases by name. -/
def Phase.variants : List (Variant Phase) :=
  [.unit "idle" .idle, .single "attempting" .attempting Wire.decode, .unit "rendered" .rendered,
   .unit "errored" .errored]

instance : Wire Phase where
  encode
    | .idle => .str "idle"
    | .attempting a => .obj [("attempting", Wire.encode a)]
    | .rendered => .str "rendered"
    | .errored => .str "errored"
  decode := Variant.decode Phase.variants

/-- The drop reasons by name. -/
def DropReason.variants : List (Variant DropReason) :=
  [.record "superseded" "DropReason::Superseded"
     (DropReason.superseded <$> .required "latest" Wire.decode),
   .unit "already_settled" .alreadySettled, .unit "unknown_chart" .unknownChart]

instance : Wire DropReason where
  encode
    | .superseded latest => .obj [("superseded", .obj [("latest", Wire.encode latest)])]
    | .alreadySettled => .str "already_settled"
    | .unknownChart => .str "unknown_chart"
  decode := Variant.decode DropReason.variants

/-- The callback outcomes by name. -/
def CallbackOutcome.variants : List (Variant CallbackOutcome) :=
  [.record "applied" "CallbackOutcome::Applied"
     (CallbackOutcome.applied <$> .required "status_signaled" Decoder.bool
       <*> .required "telemetry_emitted" Decoder.bool),
   .single "dropped" .dropped Wire.decode]

instance : Wire CallbackOutcome where
  encode
    | .applied signaled emitted =>
      .obj [("applied",
        .obj [("status_signaled", .bool signaled), ("telemetry_emitted", .bool emitted)])]
    | .dropped reason => .obj [("dropped", Wire.encode reason)]
  decode := Variant.decode CallbackOutcome.variants

namespace LifecycleEvent

/-- The field for the chart of an event. -/
def chartField : Fields ChartId := .required "chart_id" Wire.decode

/-- The field for the attempt of an event. -/
def attemptField : Fields AttemptId := .required "attempt" Wire.decode

/-- The events by name. -/
def variants : List (Variant LifecycleEvent) :=
  [.record "redraw_withheld" "LifecycleEvent::RedrawWithheld"
     (redrawWithheld <$> chartField <*> .required "decision" Wire.decode),
   .record "attempt_begun" "LifecycleEvent::AttemptBegun"
     (attemptBegun <$> chartField <*> attemptField
       <*> .required "result_change_triggered" Decoder.bool),
   .record "rendered" "LifecycleEvent::Rendered"
     (rendered <$> chartField <*> attemptField <*> .required "status_signaled" Decoder.bool),
   .record "failed" "LifecycleEvent::Failed" (failed <$> chartField <*> attemptField),
   .record "callback_dropped" "LifecycleEvent::CallbackDropped"
     (callbackDropped <$> chartField <*> attemptField <*> .required "reason" Wire.decode)]

/-- An event as the members of its record, under its name. -/
def members : LifecycleEvent → String × List (String × Json)
  | redrawWithheld c decision =>
    ("redraw_withheld", [("chart_id", Wire.encode c), ("decision", Wire.encode decision)])
  | attemptBegun c a changed =>
    ("attempt_begun", [("chart_id", Wire.encode c), ("attempt", Wire.encode a),
      ("result_change_triggered", .bool changed)])
  | rendered c a signaled =>
    ("rendered", [("chart_id", Wire.encode c), ("attempt", Wire.encode a),
      ("status_signaled", .bool signaled)])
  | failed c a => ("failed", [("chart_id", Wire.encode c), ("attempt", Wire.encode a)])
  | callbackDropped c a reason =>
    ("callback_dropped", [("chart_id", Wire.encode c), ("attempt", Wire.encode a),
      ("reason", Wire.encode reason)])

end LifecycleEvent

instance : Wire LifecycleEvent where
  encode e := .obj [(e.members.1, .obj e.members.2)]
  decode := Variant.decode LifecycleEvent.variants

end Redraw
