import Redraw.Status.Snapshot
import Redraw.Wire.Variants

/-!
# Statuses as JSON

A status is written as its name. A snapshot always shows its three fields, with null for a status or
an alert that is not there.
-/

namespace Redraw

/-- The statuses by name. -/
def ChartStatus.variants : List (Variant ChartStatus) :=
  [.unit "idle" .idle, .unit "loading" .loading, .unit "success" .success, .unit "error" .error,
   .unit "rendered" .rendered]

instance : Wire ChartStatus where
  encode s := .str s.name
  decode := Variant.decode ChartStatus.variants

/-- The fields of a snapshot. -/
def StatusSnapshot.fields : Fields StatusSnapshot :=
  StatusSnapshot.mk <$> .optional "status" Wire.decode
    <*> .withDefault "refresh_overlay_visible" false Decoder.bool
    <*> .withDefault "alert" none (Decoder.nullable Decoder.string)

instance : Wire StatusSnapshot where
  encode s :=
    .obj [("status", Json.ofString? (s.status.map (·.name))),
      ("refresh_overlay_visible", .bool s.overlay), ("alert", Json.ofString? s.alert)]
  decode := StatusSnapshot.fields.record "StatusSnapshot"

/-- The name of a skip reason. -/
def SkipReason.name : SkipReason → String
  | refreshOverlay => "refresh_overlay"
  | loading => "loading"
  | nullStatus => "null_status"
  | alert => "alert"

/-- The skip reasons by name. -/
def SkipReason.variants : List (Variant SkipReason) :=
  [.unit "refresh_overlay" .refreshOverlay, .unit "loading" .loading,
   .unit "null_status" .nullStatus, .unit "alert" .alert]

instance : Wire SkipReason where
  encode r := .str r.name
  decode := Variant.decode SkipReason.variants

end Redraw
