import Redraw.Proofs.Decimal.Finite
import Redraw.Proofs.Json.Layout
import Redraw.Proofs.Wire.Encodings

/-!
# Texts of values

A value is read back from its text, and whatever text it was read from, its own text is a normal form of
that one. A text nests as deep as the document that is written; what was read from a text of any
spelling is never written deeper than that text was read.
-/

namespace Redraw

/-! ## Values and texts -/

namespace Wire

variable {α : Type} [Wire α]

/-- The text of the value that a text spells. -/
def normalize (α : Type) [Wire α] (text : String) : Except ReadError String :=
  (read text : Except ReadError α).map compact

/-- The texts of a type are faithful to its values. Floating-point numbers are read inexactly where
they have many digits, so those of the document are assumed to read back. -/
structure RoundTrips (α : Type) [Wire α] (finite : α → Prop := fun _ => True) : Prop where
  /-- A value whose numbers are finite is read from its text. -/
  written : ∀ a : α, finite a → (encode a).depth ≤ Json.nestingLimit →
    (encode a).FloatsReadBack → read (compact a) = .ok a
  /-- A value that was read from any text is read from its own. -/
  reread : ∀ (text : String) (a : α), read text = .ok a →
    (encode a).FloatsReadBack → read (compact a) = .ok a
  /-- Writing again what was read from a text that was written changes nothing. -/
  settled : ∀ text : String, (∀ a : α, read text = .ok a → (encode a).FloatsReadBack) →
    (normalize α text).bind (normalize α) = normalize α text

/-- A type round-trips if its documents do, and if no text is read as a value that is written deeper
than texts are read. -/
theorem roundTrips_of {finite : α → Prop} (decodes : ∀ a, finite a → decode (encode a) = .ok a)
    (readable : ∀ a : α, (encode a).readable = true)
    (finite_of_decode : ∀ (j : Json) (a : α), decode j = .ok a → finite a)
    (shallow : ∀ (j : Json) (a : α), decode j = .ok a → j.depth ≤ Json.nestingLimit →
      (encode a).depth ≤ Json.nestingLimit) : RoundTrips α finite := by
  have written : ∀ a : α, finite a → (encode a).depth ≤ Json.nestingLimit →
      (encode a).FloatsReadBack → read (compact a) = .ok a := by
    intro a fin low back
    exact read_of_decode (Json.read?_compact (readable a) low back) (decodes a fin)
  have reread : ∀ (text : String) (a : α), read text = .ok a →
      (encode a).FloatsReadBack → read (compact a) = .ok a := by
    intro text a found back
    obtain ⟨j, spelled, decoded⟩ := decode_of_read found
    exact written a (finite_of_decode j a decoded)
      (shallow j a decoded (Json.depth_of_read spelled)) back
  refine ⟨written, reread, ?_⟩
  intro text back
  unfold normalize
  cases found : (read text : Except ReadError α) with
  | error cause => rfl
  | ok a =>
    change (read (compact a) : Except ReadError α).map compact = _
    rw [reread text a found (back a found)]

end Wire

/-- Types whose documents are slight have no depth to care about. -/
theorem Wire.roundTrips_of_slight {α : Type} [Wire α] {finite : α → Prop}
    (slight : ∀ a : α, (encode a).Slight) (decodes : ∀ a, finite a → decode (encode a) = .ok a)
    (finite_of_decode : ∀ (j : Json) (a : α), decode j = .ok a → finite a) :
    RoundTrips α finite := by
  refine roundTrips_of decodes (fun a => (slight a).readable) finite_of_decode ?_
  intro j a _ _
  exact (slight a).depth_le_limit

/-! ## Types of few levels -/

theorem AttemptRecord.slight_encode (r : AttemptRecord) : (Wire.encode r).Slight := by
  obtain ⟨readable, level⟩ := Json.ofFloat_leaf r.startedAt
  constructor
  · simp [Wire.encode, Json.readable, Json.readableMembers, Json.ofUInt64, readable]
  · simp [Wire.encode, Json.depth, Json.depthMembers, Json.ofUInt64, level]

theorem StatusSnapshot.slight_encode (s : StatusSnapshot) : (Wire.encode s).Slight := by
  obtain ⟨status, overlay, alert⟩ := s
  cases status <;> cases alert <;> exact ⟨rfl, Nat.le_of_ble_eq_true rfl⟩

theorem Phase.slight_encode (p : Phase) : (Wire.encode p).Slight := by
  cases p <;> exact ⟨rfl, Nat.le_of_ble_eq_true rfl⟩

theorem DropReason.slight_encode (r : DropReason) : (Wire.encode r).Slight := by
  cases r <;> exact ⟨rfl, Nat.le_of_ble_eq_true rfl⟩

theorem CallbackOutcome.slight_encode (o : CallbackOutcome) : (Wire.encode o).Slight := by
  cases o with
  | applied signaled emitted => exact ⟨rfl, Nat.le_of_ble_eq_true rfl⟩
  | dropped reason => cases reason <;> exact ⟨rfl, Nat.le_of_ble_eq_true rfl⟩

theorem RedrawDecision.slight_encode (d : RedrawDecision) : (Wire.encode d).Slight := by
  cases d <;> exact ⟨rfl, Nat.le_of_ble_eq_true rfl⟩

theorem LifecycleEvent.slight_encode (e : LifecycleEvent) : (Wire.encode e).Slight := by
  cases e with
  | redrawWithheld c decision => cases decision <;> exact ⟨rfl, Nat.le_of_ble_eq_true rfl⟩
  | attemptBegun c a changed => exact ⟨rfl, Nat.le_of_ble_eq_true rfl⟩
  | rendered c a signaled => exact ⟨rfl, Nat.le_of_ble_eq_true rfl⟩
  | failed c a => exact ⟨rfl, Nat.le_of_ble_eq_true rfl⟩
  | callbackDropped c a reason => cases reason <;> exact ⟨rfl, Nat.le_of_ble_eq_true rfl⟩

/-- The label rule of a strategy is a name or null. -/
theorem Strategy.slight_encode (s : Strategy) : (Wire.encode s).Slight := by
  obtain ⟨always, label, engine⟩ := s
  cases label <;> exact ⟨rfl, Nat.le_of_ble_eq_true rfl⟩

/-- A row is as slight as its strategy. -/
theorem StrategyRow.slight_encode (r : StrategyRow) : (Wire.encode r).Slight := by
  refine ⟨r.readable_encode, ?_⟩
  rw [r.depth_encode]
  decide

/-- What is read as a floating-point number is finite, also where an integer stands for it. -/
theorem Decoder.isFinite_of_float {j : Json} {x : Float} (found : float j = .ok x) :
    x.isFinite = true := by
  cases j with
  | num n =>
    cases n with
    | int i fits =>
      cases found
      exact Decimal.isFinite_ofInt fits
    | float y finite =>
      cases found
      exact finite
  | null => cases found
  | bool b => cases found
  | str s => cases found
  | arr items => cases found
  | obj members => cases found
  | unreadable => cases found

/-- A record that was read has a start that can be written. -/
theorem AttemptRecord.isFinite_of_decode {j : Json} {r : AttemptRecord}
    (found : Wire.decode j = .ok r) : r.startedAt.isFinite = true := by
  obtain ⟨s, built, -⟩ := Fields.build_of_decode found
  obtain ⟨_, changed, first, -, rfl⟩ := Fields.of_build_seq built
  obtain ⟨_, startedAt, second, started, rfl⟩ := Fields.of_build_seq first
  obtain ⟨_, vizType, third, -, rfl⟩ := Fields.of_build_seq second
  obtain ⟨_, attempt, fourth, -, rfl⟩ := Fields.of_build_seq third
  obtain ⟨chart, -, rfl⟩ := Fields.of_build_map fourth
  obtain ⟨part, -, decoded⟩ | absent := Fields.of_build_field started
  · exact Decoder.isFinite_of_float decoded
  · cases absent

/-! ## Types that hold free values -/

/-- A form is as readable as its values, which all are. -/
theorem FormData.readable_encode (f : FormData) : (Wire.encode f).readable = true := by
  refine Json.readableMembers_of_all fun member inside => ?_
  obtain ⟨option, -, rfl⟩ := List.mem_map.1 inside
  exact Json.readable_of_isSorted option.2.isSorted

/-- Each option that was read is no deeper than the members it was read from. -/
theorem FormData.depth_of_decodeMembers {members : List (String × Json)}
    {options : List (String × Value)} (found : decodeMembers members = .ok options)
    {option : String × Value} (inside : option ∈ options) :
    option.2.json.depth ≤ Json.depthMembers members := by
  induction members generalizing options with
  | nil =>
    cases found
    cases inside
  | cons member rest ih =>
    obtain ⟨name, j⟩ := member
    unfold decodeMembers at found
    split at found
    · cases found
    · next v first =>
      split at found
      · cases found
      · next more later =>
        cases found
        simp only [Json.depthMembers]
        obtain rfl | among := List.mem_cons.1 inside
        · have := Decoder.depth_of_value first
          dsimp only
          omega
        · have := ih later among
          omega

/-- A form that was read is written no deeper than it came. -/
theorem FormData.depth_encode_le {j : Json} {f : FormData} (found : Wire.decode j = .ok f) :
    (Wire.encode f).depth ≤ j.depth := by
  cases j with
  | obj members =>
    change (decodeMembers members).map OrderedMap.ofList = _ at found
    cases decoded : decodeMembers members with
    | error e =>
      rw [decoded] at found
      cases found
    | ok options =>
      rw [decoded] at found
      cases found
      refine Nat.succ_le_succ (Json.depthMembers_le ?_)
      intro member inside
      obtain ⟨option, kept, rfl⟩ := List.mem_map.1 inside
      exact depth_of_decodeMembers decoded (OrderedMap.mem_of_mem_ofList kept)
  | null => cases found
  | bool b => cases found
  | num n => cases found
  | str s => cases found
  | arr items => cases found
  | unreadable => cases found

theorem QueryResult.readable_encode (r : QueryResult) : (Wire.encode r).readable = true := by
  obtain ⟨data, error⟩ := r
  have readable := Json.readable_of_isSorted data.isSorted
  cases error <;> simp [Wire.encode, Json.readable, Json.readableMembers, readable]

/-- A query result is one level deeper than its data. -/
theorem QueryResult.depth_encode (r : QueryResult) :
    (Wire.encode r).depth = r.data.json.depth + 1 := by
  obtain ⟨data, error⟩ := r
  cases error <;> simp [Wire.encode, Json.depth, Json.depthMembers]

/-- A query result that was read is written no deeper than it came. -/
theorem QueryResult.depth_encode_le {j : Json} {r : QueryResult} (found : Wire.decode j = .ok r) :
    (Wire.encode r).depth ≤ max j.depth 1 := by
  obtain ⟨s, built, parts⟩ := Fields.build_of_decode found
  obtain ⟨_, error, first, -, rfl⟩ := Fields.of_build_seq built
  obtain ⟨data, dataBuilt, rfl⟩ := Fields.of_build_map first
  rw [depth_encode]
  obtain ⟨part, there, decoded⟩ | default := Fields.of_build_field dataBuilt
  · have := parts _ part there
    have := Decoder.depth_of_value decoded
    dsimp only
    omega
  · cases default
    exact Nat.le_max_right _ _

theorem AddFilterRequest.readable_encode (r : AddFilterRequest) :
    (Wire.encode r).readable = true := by
  have values : Json.readableItems (r.values.map (·.json)) = true := by
    refine Json.readableItems_of_all fun item inside => ?_
    obtain ⟨v, -, rfl⟩ := List.mem_map.1 inside
    exact Json.readable_of_isSorted v.isSorted
  simp [Wire.encode, Json.readable, Json.readableMembers, values]

/-- A filter is two levels deeper than its deepest value: one for the record and one for the list. -/
theorem AddFilterRequest.depth_encode (r : AddFilterRequest) :
    (Wire.encode r).depth = Json.depthItems (r.values.map (·.json)) + 2 := by
  simp [Wire.encode, Json.depth, Json.depthMembers]

/-- A filter that was read is written no deeper than it came. -/
theorem AddFilterRequest.depth_encode_le {j : Json} {r : AddFilterRequest}
    (found : Wire.decode j = .ok r) : (Wire.encode r).depth ≤ max j.depth 2 := by
  obtain ⟨s, built, parts⟩ := Fields.build_of_decode found
  obtain ⟨_, refresh, first, -, rfl⟩ := Fields.of_build_seq built
  obtain ⟨_, merge, second, -, rfl⟩ := Fields.of_build_seq first
  obtain ⟨_, values, third, valuesBuilt, rfl⟩ := Fields.of_build_seq second
  obtain ⟨column, -, rfl⟩ := Fields.of_build_map third
  rw [depth_encode]
  obtain ⟨part, there, decoded⟩ | absent := Fields.of_build_field valuesBuilt
  · have low : Json.depthItems (values.map (·.json)) ≤ part.depth - 1 := by
      refine Json.depthItems_le fun item inside => ?_
      obtain ⟨v, among, rfl⟩ := List.mem_map.1 inside
      obtain ⟨source, value, less⟩ := Decoder.mem_of_list decoded among
      have := Decoder.depth_of_value value
      omega
    have := parts _ part there
    dsimp only
    omega
  · cases absent

/-- Annotations that were read are written no deeper than they came. -/
theorem AnnotationData.depth_encode_le {j : Json} {a : AnnotationData}
    (found : Wire.decode j = .ok a) : (Wire.encode a).depth ≤ j.depth := by
  change (Decoder.value j).map AnnotationData.mk = _ at found
  cases decoded : Decoder.value j with
  | error e =>
    rw [decoded] at found
    cases found
  | ok v =>
    rw [decoded] at found
    cases found
    exact Decoder.depth_of_value decoded

/-! ## All types -/

/-- Every value is read back from its text, and every text that is read as a value has the text of that
value as its normal form. Equal forms hold their options in the same order. -/
theorem values_round_trip :
    Wire.RoundTrips FormData ∧ Wire.RoundTrips QueryResult ∧ Wire.RoundTrips AnnotationData ∧
      Wire.RoundTrips StatusSnapshot ∧ Wire.RoundTrips AddFilterRequest ∧
      Wire.RoundTrips AttemptRecord (fun r => r.startedAt.isFinite = true) ∧
      Wire.RoundTrips Phase ∧ Wire.RoundTrips DropReason ∧ Wire.RoundTrips CallbackOutcome ∧
      Wire.RoundTrips RedrawDecision ∧ Wire.RoundTrips LifecycleEvent ∧
      Wire.RoundTrips Strategy ∧ Wire.RoundTrips StrategyRow := by
  refine ⟨?_, ?_, ?_, ?_, ?_, ?_, ?_, ?_, ?_, ?_, ?_, ?_, ?_⟩
  · refine Wire.roundTrips_of (fun f _ => f.decode_encode) FormData.readable_encode
      (fun _ _ _ => trivial) fun j f found low => ?_
    exact Nat.le_trans (FormData.depth_encode_le found) low
  · refine Wire.roundTrips_of (fun r _ => r.decode_encode) QueryResult.readable_encode
      (fun _ _ _ => trivial) fun j r found low => ?_
    exact Nat.le_trans (QueryResult.depth_encode_le found) (Nat.max_le.2 ⟨low, by decide⟩)
  · refine Wire.roundTrips_of (fun a _ => a.decode_encode)
      (fun a => Json.readable_of_isSorted a.layers.isSorted) (fun _ _ _ => trivial) fun j a found low => ?_
    exact Nat.le_trans (AnnotationData.depth_encode_le found) low
  · exact Wire.roundTrips_of_slight StatusSnapshot.slight_encode (fun s _ => s.decode_encode)
      fun _ _ _ => trivial
  · refine Wire.roundTrips_of (fun r _ => r.decode_encode) AddFilterRequest.readable_encode
      (fun _ _ _ => trivial) fun j r found low => ?_
    exact Nat.le_trans (AddFilterRequest.depth_encode_le found) (Nat.max_le.2 ⟨low, by decide⟩)
  · exact Wire.roundTrips_of_slight AttemptRecord.slight_encode
      (fun r finite => r.decode_encode finite) fun _ _ found => AttemptRecord.isFinite_of_decode found
  · exact Wire.roundTrips_of_slight Phase.slight_encode (fun p _ => p.decode_encode)
      fun _ _ _ => trivial
  · exact Wire.roundTrips_of_slight DropReason.slight_encode (fun r _ => r.decode_encode)
      fun _ _ _ => trivial
  · exact Wire.roundTrips_of_slight CallbackOutcome.slight_encode (fun o _ => o.decode_encode)
      fun _ _ _ => trivial
  · exact Wire.roundTrips_of_slight RedrawDecision.slight_encode (fun d _ => d.decode_encode)
      fun _ _ _ => trivial
  · exact Wire.roundTrips_of_slight LifecycleEvent.slight_encode (fun e _ => e.decode_encode)
      fun _ _ _ => trivial
  · exact Wire.roundTrips_of_slight Strategy.slight_encode (fun s _ => s.decode_encode)
      fun _ _ _ => trivial
  · exact Wire.roundTrips_of_slight StrategyRow.slight_encode (fun r _ => r.decode_encode)
      fun _ _ _ => trivial

/-- A record whose start has a fraction is read back. -/
theorem record_with_fraction_round_trips :
    Wire.read (Wire.compact (⟨⟨7⟩, ⟨3⟩, ⟨"table"⟩, 1723.25, true⟩ : AttemptRecord)) =
      .ok (⟨⟨7⟩, ⟨3⟩, ⟨"table"⟩, 1723.25, true⟩ : AttemptRecord) := by
  obtain ⟨-, -, -, -, -, records, -⟩ := values_round_trip
  exact records.written _ (by decide +kernel) (by decide +kernel) (by decide +kernel)

end Redraw
