import Redraw.Proofs.Json.Layout
import Redraw.Proofs.Wire.Encodings
import Redraw.Wire.Telemetry

/-!
# Telemetry read back

Telemetry is read as a bare event first and as an envelope where that fails. A bare event lacks the
members of an envelope and an envelope those of an event, so neither is taken for the other. A time
that is not finite is written as null, which is no number, so no text of such an event is read.
-/

namespace Redraw

open Fields (reads_present reads_absent record_of_reads)

namespace TelemetryEvent

/-! ## Bare events -/

/-- The members of an event. -/
def members (e : TelemetryEvent) : List (String × Json) :=
  [("kind", Wire.encode e.kind), ("slice_id", Wire.encode e.chart),
    ("viz_type", Wire.encode e.vizType), ("start_offset", Json.ofFloat e.startOffset),
    ("ts", Json.ofInt64 e.timestamp), ("duration", Json.ofFloat e.duration),
    ("has_err", .bool e.failed)]
    ++ (e.errorDetail.toList.map fun detail => ("error_details", .str detail))

theorem encode_eq (e : TelemetryEvent) : Wire.encode e = .obj e.members := rfl

theorem decode_obj (members : List (String × Json)) :
    (Wire.decode (.obj members) : Except DecodeError TelemetryEvent) =
      fields.record "TelemetryEvent" (.obj members) := rfl

/-- The times of the event are finite. -/
def IsTimed (e : TelemetryEvent) : Prop :=
  e.startOffset.isFinite = true ∧ e.duration.isFinite = true

variable {e : TelemetryEvent}

theorem decode_encode (timed : e.IsTimed) : Wire.decode (Wire.encode e) = .ok e := by
  have distinct : (e.members.map Prod.fst).Nodup := by
    cases detail : e.errorDetail <;> simp [members, detail]
  refine record_of_reads distinct
    (.seq (.seq (.seq (.seq (.seq (.seq (.seq (.map ?_ _) ?_) ?_) ?_) ?_) ?_) ?_) ?_)
  · exact reads_present rfl rfl
  · exact reads_present rfl e.chart.decode_encode
  · exact reads_present rfl e.vizType.decode_encode
  · exact reads_present rfl (Decoder.float_ofFloat timed.1)
  · exact reads_present rfl (Decoder.int64_ofInt64 e.timestamp)
  · exact reads_present rfl (Decoder.float_ofFloat timed.2)
  · exact reads_present rfl rfl
  · obtain ⟨_, _, _, _, _, _, _, detail⟩ := e
    cases detail with
    | none => exact reads_absent rfl rfl
    | some text => exact reads_present rfl rfl

/-- A number is read only from a number that is finite. -/
theorem isFinite_of_float_ofFloat {x y : Float} (found : Decoder.float (Json.ofFloat x) = .ok y) :
    x.isFinite = true := by
  unfold Json.ofFloat at found
  split at found
  · next finite => exact finite
  · cases found

/-- The times are read as numbers, and null is none. -/
theorem isTimed_of_decode {f : TelemetryEvent} (found : Wire.decode (Wire.encode e) = .ok f) :
    e.IsTimed := by
  rw [encode_eq, decode_obj] at found
  have built := Fields.build_of_record found
  -- The source stays folded, or the build would be computed from its members.
  generalize source : Source.ofMembers _ = s at built
  obtain ⟨_, detail, first, -, rfl⟩ := Fields.of_build_seq built
  obtain ⟨_, failed, second, -, rfl⟩ := Fields.of_build_seq first
  obtain ⟨_, duration, third, lasted, rfl⟩ := Fields.of_build_seq second
  obtain ⟨_, timestamp, fourth, -, rfl⟩ := Fields.of_build_seq third
  obtain ⟨_, startOffset, fifth, started, rfl⟩ := Fields.of_build_seq fourth
  constructor
  · obtain ⟨j, there, decoded⟩ | absent := Fields.of_build_field started
    · subst source
      cases there
      exact isFinite_of_float_ofFloat decoded
    · cases absent
  · obtain ⟨j, there, decoded⟩ | absent := Fields.of_build_field lasted
    · subst source
      cases there
      exact isFinite_of_float_ofFloat decoded
    · cases absent

/-- An event has no version, and so it is no envelope. -/
theorem decode_bare_as_envelope (e : TelemetryEvent) :
    (Wire.decode (Wire.encode e) : Except DecodeError TelemetryEnvelope) =
      .error (.missingField "schema_version") := by
  obtain ⟨_, _, _, _, _, _, _, detail⟩ := e
  cases detail <;> rfl

end TelemetryEvent

/-! ## Envelopes -/

namespace TelemetryEnvelope

/-- The members of an envelope. -/
def members (n : TelemetryEnvelope) : List (String × Json) :=
  [("schema_version", Json.ofUInt32 n.version), ("event", Wire.encode n.event)]

theorem encode_eq (n : TelemetryEnvelope) : Wire.encode n = .obj n.members := rfl

theorem decode_obj (members : List (String × Json)) :
    (Wire.decode (.obj members) : Except DecodeError TelemetryEnvelope) =
      fields.record "TelemetryEventJsonContractV1" (.obj members) := rfl

theorem decode_encode {n : TelemetryEnvelope} (timed : n.event.IsTimed) :
    Wire.decode (Wire.encode n) = .ok n := by
  refine record_of_reads (by simp) (.seq (.map ?_ _) ?_)
  · exact reads_present rfl (Decoder.uint32_ofUInt32 n.version)
  · exact reads_present rfl (TelemetryEvent.decode_encode timed)

theorem isTimed_of_decode {n m : TelemetryEnvelope} (found : Wire.decode (Wire.encode n) = .ok m) :
    n.event.IsTimed := by
  rw [encode_eq, decode_obj] at found
  have built := Fields.build_of_record found
  -- The source stays folded, or the build would be computed from its members.
  generalize source : Source.ofMembers _ = s at built
  obtain ⟨_, event, -, eventBuilt, rfl⟩ := Fields.of_build_seq built
  obtain ⟨j, there, decoded⟩ | absent := Fields.of_build_field eventBuilt
  · subst source
    cases there
    exact TelemetryEvent.isTimed_of_decode decoded
  · cases absent

/-- An envelope has no kind, and so it is no event. -/
theorem decode_envelope_as_bare (n : TelemetryEnvelope) :
    (Wire.decode (Wire.encode n) : Except DecodeError TelemetryEvent) =
      .error (.missingField "kind") := rfl

end TelemetryEnvelope

/-! ## Texts -/

namespace TelemetryEvent

/-- The texts of the event without an envelope. -/
def bareTexts (e : TelemetryEvent) : List String := [Wire.compact e, Wire.pretty e]

/-- The texts of the event in an envelope of a version. -/
def envelopeTexts (e : TelemetryEvent) (version : UInt32) : List String :=
  [Wire.compact (TelemetryEnvelope.mk version e), Wire.pretty (TelemetryEnvelope.mk version e)]

variable {e : TelemetryEvent} {version : UInt32} {text : String}

/-- An event is one level deep, and every part of it names a value. -/
theorem leaf_encode (e : TelemetryEvent) :
    (Wire.encode e).readable = true ∧ (Wire.encode e).depth = 1 := by
  have start := Json.ofFloat_leaf e.startOffset
  have duration := Json.ofFloat_leaf e.duration
  rw [encode_eq]
  cases detail : e.errorDetail <;>
    simp [members, detail, Wire.encode, Json.readable, Json.readableMembers, Json.depth,
      Json.depthMembers, Json.ofUInt64, Json.ofInt64, start, duration]

/-- Every text of a bare event spells its document. -/
theorem read?_of_bareTexts (back : (Wire.encode e).FloatsReadBack) (inside : text ∈ e.bareTexts) :
    Json.read? text = some (Wire.encode e) := by
  obtain ⟨readable, level⟩ := e.leaf_encode
  have low : (Wire.encode e).depth ≤ Json.nestingLimit := by
    rw [level]
    decide
  obtain rfl | later := List.mem_cons.1 inside
  · exact Json.read?_compact readable low back
  · obtain rfl := List.mem_singleton.1 later
    exact Json.read?_pretty readable low back

/-- Every text of an envelope spells its document. -/
theorem read?_of_envelopeTexts (back : (Wire.encode e).FloatsReadBack)
    (inside : text ∈ e.envelopeTexts version) :
    Json.read? text = some (Wire.encode (TelemetryEnvelope.mk version e)) := by
  obtain ⟨readable, level⟩ := e.leaf_encode
  have numbered : (Wire.encode (TelemetryEnvelope.mk version e)).FloatsReadBack := by
    rintro n (_ | ⟨_, inEvent⟩) float
    · cases float
    · rw [Json.numbersMembers, Json.numbersMembers, List.append_nil] at inEvent
      exact back n inEvent float
  have slight : (Wire.encode (TelemetryEnvelope.mk version e)).Slight := by
    rw [TelemetryEnvelope.encode_eq]
    constructor
    · simp only [TelemetryEnvelope.members, Json.ofUInt32, Json.readable, Json.readableMembers,
        readable, Bool.and_self]
    · simp only [TelemetryEnvelope.members, Json.ofUInt32, Json.depth, Json.depthMembers, level]
      omega
  obtain rfl | later := List.mem_cons.1 inside
  · exact Json.read?_compact slight.readable slight.depth_le_limit numbered
  · obtain rfl := List.mem_singleton.1 later
    exact Json.read?_pretty slight.readable slight.depth_le_limit numbered

/-- A bare event is read as such, before envelopes are tried. -/
theorem read_of_bare (spelled : Json.read? text = some (Wire.encode e)) (timed : e.IsTimed) :
    read text = .ok e := by
  unfold read
  rw [Wire.read_of_decode spelled (decode_encode timed)]

/-- No envelope is read as a bare event. -/
theorem ne_ok_of_envelope {n : TelemetryEnvelope} (spelled : Json.read? text = some (Wire.encode n))
    (f : TelemetryEvent) : Wire.read text ≠ .ok f := by
  refine Wire.read_ne_ok spelled (fun g found => ?_) f
  rw [n.decode_envelope_as_bare] at found
  cases found

/-- A text that is no bare event is read as an envelope. -/
theorem read_eq_ofEnvelope (other : ∀ f : TelemetryEvent, Wire.read text ≠ .ok f) :
    read text = ofEnvelope text := by
  unfold read
  split
  · next f found => exact absurd found (other f)
  · rfl

/-- An envelope is opened if its version is the current one, and refused with its version otherwise. -/
theorem read_of_envelope {n : TelemetryEnvelope} (spelled : Json.read? text = some (Wire.encode n))
    (timed : n.event.IsTimed) :
    read text =
      if n.version = schemaVersion then .ok n.event else .error (.unsupportedVersion n.version) := by
  rw [read_eq_ofEnvelope (ne_ok_of_envelope spelled)]
  unfold ofEnvelope
  rw [Wire.read_of_decode spelled (TelemetryEnvelope.decode_encode timed)]

/-- A text that is neither an event nor an envelope is refused. -/
theorem read_refused (other : ∀ f : TelemetryEvent, Wire.read text ≠ .ok f)
    (unwrapped : ∀ n : TelemetryEnvelope, Wire.read text ≠ .ok n) :
    ∃ fault, read text = .error fault := by
  rw [read_eq_ofEnvelope other]
  unfold ofEnvelope
  split
  · exact ⟨_, rfl⟩
  · next n found => exact absurd found (unwrapped n)

end TelemetryEvent

/-- Telemetry is read back from its texts, bare or in an envelope of the version that is read. An
envelope of another version is refused with that version, and no envelope is taken for a bare event.
An event with a time that is not finite is read from none of its texts. -/
theorem telemetry_round_trips (e : TelemetryEvent) (back : (Wire.encode e).FloatsReadBack) :
    (e.IsTimed →
      TelemetryEvent.read e.pretty = .ok e ∧ TelemetryEvent.read (Wire.compact e) = .ok e ∧
      (∀ text ∈ e.bareTexts, TelemetryEvent.read text = .ok e) ∧
      ∀ version, ∀ text ∈ e.envelopeTexts version,
        TelemetryEvent.read text =
            (if version = 1 then .ok e else .error (.unsupportedVersion version)) ∧
          (Fault.unsupportedVersion version).message =
            "invalid data: unsupported telemetry schema version: " ++ toString version) ∧
    (∀ version, ∀ text ∈ e.envelopeTexts version, ∀ f : TelemetryEvent, Wire.read text ≠ .ok f) ∧
    (¬ e.IsTimed → ∀ text, (text ∈ e.bareTexts ∨ ∃ version, text ∈ e.envelopeTexts version) →
      ∃ fault, TelemetryEvent.read text = .error fault) := by
  refine ⟨fun timed => ?_, fun version text inside f => ?_, fun untimed text inside => ?_⟩
  · have bare : ∀ text ∈ e.bareTexts, TelemetryEvent.read text = .ok e := fun text inside =>
      TelemetryEvent.read_of_bare (TelemetryEvent.read?_of_bareTexts back inside) timed
    have wrapped : ∀ version, ∀ text ∈ e.envelopeTexts version,
        TelemetryEvent.read text =
          if version = 1 then .ok e else .error (.unsupportedVersion version) :=
      fun version text inside =>
        TelemetryEvent.read_of_envelope (TelemetryEvent.read?_of_envelopeTexts back inside) timed
    refine ⟨?_, bare _ List.mem_cons_self, bare, fun version text inside => ?_⟩
    · exact wrapped 1 e.pretty (List.mem_cons_of_mem _ List.mem_cons_self)
    · exact ⟨wrapped version text inside, rfl⟩
  · exact TelemetryEvent.ne_ok_of_envelope (TelemetryEvent.read?_of_envelopeTexts back inside) f
  · obtain bare | ⟨version, wrapped⟩ := inside
    · have spelled := TelemetryEvent.read?_of_bareTexts back bare
      refine TelemetryEvent.read_refused (Wire.read_ne_ok spelled fun f found => ?_)
        (Wire.read_ne_ok spelled fun n found => ?_)
      · exact untimed (TelemetryEvent.isTimed_of_decode found)
      · rw [e.decode_bare_as_envelope] at found
        cases found
    · have spelled := TelemetryEvent.read?_of_envelopeTexts back wrapped
      refine TelemetryEvent.read_refused (TelemetryEvent.ne_ok_of_envelope spelled)
        (Wire.read_ne_ok spelled fun n found => ?_)
      have timed : (TelemetryEnvelope.mk version e).event.IsTimed :=
        TelemetryEnvelope.isTimed_of_decode found
      exact untimed timed

/-- An event with fractions of milliseconds, and with quotes, a line end and a letter beyond ASCII in
its texts. -/
theorem telemetry_with_quotes_round_trips :
    TelemetryEvent.read (TelemetryEvent.pretty
        ⟨.render, ⟨7⟩, ⟨"\"größe\""⟩, 1723.25, -1, 12.5, true, some "\n\\"⟩) =
      .ok ⟨.render, ⟨7⟩, ⟨"\"größe\""⟩, 1723.25, -1, 12.5, true, some "\n\\"⟩ := by
  have read := telemetry_round_trips
    ⟨.render, ⟨7⟩, ⟨"\"größe\""⟩, 1723.25, -1, 12.5, true, some "\n\\"⟩ (by decide +kernel)
  exact (read.1 ⟨by decide +kernel, by decide +kernel⟩).1

end Redraw
