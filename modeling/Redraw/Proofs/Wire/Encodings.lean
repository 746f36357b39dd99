import Redraw.Proofs.Wire.Records
import Redraw.Wire.Attempt
import Redraw.Wire.Hooks
import Redraw.Wire.Strategy

/-!
# Every type decodes what it encodes

For every type that is written as JSON, the document that a value is encoded as decodes to the value.
This is about documents; texts come on top of it.
-/

namespace Redraw

open Fields (reads_present reads_absent record_of_reads)

/-! ## Charts -/

theorem ChartId.decode_encode (c : ChartId) : Wire.decode (Wire.encode c) = .ok c := by
  change (Decoder.uint64 (Json.ofUInt64 c.raw)).map ChartId.mk = _
  rw [Decoder.uint64_ofUInt64]
  rfl

theorem AttemptId.decode_encode (a : AttemptId) : Wire.decode (Wire.encode a) = .ok a := by
  change (Decoder.uint64 (Json.ofUInt64 a.raw)).map AttemptId.mk = _
  rw [Decoder.uint64_ofUInt64]
  rfl

/-- A type comes back from its bare tag. -/
theorem VizType.decode_encode (v : VizType) : Wire.decode (Wire.encode v) = .ok v := rfl

/-- The options of a form come back in their order. -/
theorem FormData.decode_encode (f : FormData) : Wire.decode (Wire.encode f) = .ok f := by
  have members : ∀ entries : List (String × Value),
      decodeMembers (entries.map fun option => (option.1, option.2.json)) = .ok entries := by
    intro entries
    induction entries with
    | nil => rfl
    | cons entry rest ih =>
      rw [List.map_cons, decodeMembers, Decoder.value_json]
      dsimp only
      rw [ih]
  exact (congrArg (Except.map OrderedMap.ofList) (members f.entries)).trans
    (congrArg Except.ok f.ofList_entries)

/-- An error that is missing is not written and comes back as missing. -/
theorem QueryResult.decode_encode (r : QueryResult) : Wire.decode (Wire.encode r) = .ok r := by
  obtain ⟨data, error⟩ := r
  cases error with
  | none =>
    refine record_of_reads (by simp) (.seq (.map ?_ _) ?_)
    · exact reads_present rfl (Decoder.value_json data)
    · exact reads_absent rfl rfl
  | some message =>
    refine record_of_reads (by simp) (.seq (.map ?_ _) ?_)
    · exact reads_present rfl (Decoder.value_json data)
    · exact reads_present rfl rfl

theorem AnnotationData.decode_encode (a : AnnotationData) :
    Wire.decode (Wire.encode a) = .ok a := by
  change (Decoder.value a.layers.json).map AnnotationData.mk = _
  rw [Decoder.value_json]
  rfl

/-- The values of a filter come back in their order, whatever documents they are. -/
theorem AddFilterRequest.decode_encode (r : AddFilterRequest) :
    Wire.decode (Wire.encode r) = .ok r := by
  refine record_of_reads (by simp) (.seq (.seq (.seq (.map ?_ _) ?_) ?_) ?_)
  · exact reads_present rfl rfl
  · exact reads_present rfl (Decoder.list_map fun v _ => Decoder.value_json v)
  · exact reads_present rfl rfl
  · exact reads_present rfl rfl

/-! ## Attempts and statuses -/

/-- Everything about a record comes back if its start is a number that can be written. -/
theorem AttemptRecord.decode_encode (r : AttemptRecord) (finite : r.startedAt.isFinite = true) :
    Wire.decode (Wire.encode r) = .ok r := by
  refine record_of_reads (by simp) (.seq (.seq (.seq (.seq (.map ?_ _) ?_) ?_) ?_) ?_)
  · exact reads_present rfl r.chart.decode_encode
  · exact reads_present rfl r.attempt.decode_encode
  · exact reads_present rfl r.vizType.decode_encode
  · exact reads_present rfl (Decoder.float_ofFloat finite)
  · exact reads_present rfl rfl

theorem ChartStatus.decode_encode (s : ChartStatus) : Wire.decode (Wire.encode s) = .ok s := by
  cases s <;> rfl

/-- A status or an alert that is missing is written as null and comes back as missing. -/
theorem StatusSnapshot.decode_encode (s : StatusSnapshot) :
    Wire.decode (Wire.encode s) = .ok s := by
  refine record_of_reads (by simp) (.seq (.seq (.map ?_ _) ?_) ?_)
  · refine reads_present rfl ?_
    cases s.status with
    | none => rfl
    | some status => exact congrArg (Except.map some) status.decode_encode
  · exact reads_present rfl rfl
  · refine reads_present rfl ?_
    cases s.alert <;> rfl

/-- The phase with an attempt is written as a member named after it, the others as bare names. -/
theorem Phase.decode_encode (p : Phase) : Wire.decode (Wire.encode p) = .ok p := by
  cases p with
  | idle => rfl
  | rendered => rfl
  | errored => rfl
  | attempting a => exact Variant.decode_single rfl a.decode_encode

/-- The reason that names the newest attempt comes back with it. -/
theorem DropReason.decode_encode (r : DropReason) : Wire.decode (Wire.encode r) = .ok r := by
  cases r with
  | alreadySettled => rfl
  | unknownChart => rfl
  | superseded latest =>
    refine Variant.decode_record rfl (by simp) (.map ?_ _)
    exact reads_present rfl latest.decode_encode

/-- Both flags of an applied callback come back, and so does the reason of a dropped one. -/
theorem CallbackOutcome.decode_encode (o : CallbackOutcome) :
    Wire.decode (Wire.encode o) = .ok o := by
  cases o with
  | applied signaled emitted =>
    refine Variant.decode_record rfl (by simp) (.seq (.map ?_ _) ?_)
    · exact reads_present rfl rfl
    · exact reads_present rfl rfl
  | dropped reason => exact Variant.decode_single rfl reason.decode_encode

/-- Topics are written as the bits of their set, and all bits come back. -/
theorem RedrawTopics.decode_encode (s : RedrawTopics) (wanted : String) (held : Bool) :
    RedrawTopics.fields.decode wanted held (Wire.encode s) = .ok s := by
  refine RedrawTopics.fields.decode_of_reads (by simp) (.map ?_ _) wanted held
  exact reads_present rfl (Decoder.uint8_ofUInt8 s.bits)

/-- The topics of a change are read from beside its name. -/
theorem RedrawDecision.decode_changed (content : Json) :
    decode (.obj [("decision", .str "changed"), ("topics", content)]) =
      ((RedrawTopics.fields.decode "struct RedrawTopics" false content).map changed).bind
        (unlessRepeated · []) := rfl

/-- A decision comes back with the topics of the change. -/
theorem RedrawDecision.decode_encode (d : RedrawDecision) :
    Wire.decode (Wire.encode d) = .ok d := by
  cases d with
  | typeOverride => rfl
  | notReady => rfl
  | unchanged => rfl
  | changed topics =>
    refine (RedrawDecision.decode_changed (Wire.encode topics)).trans ?_
    rw [topics.decode_encode]
    rfl

/-- Each event comes back with its chart, its attempt and what else it tells. -/
theorem LifecycleEvent.decode_encode (e : LifecycleEvent) :
    Wire.decode (Wire.encode e) = .ok e := by
  cases e with
  | redrawWithheld c decision =>
    refine Variant.decode_record rfl (by simp [members]) (.seq (.map ?_ _) ?_)
    · exact reads_present rfl c.decode_encode
    · exact reads_present rfl decision.decode_encode
  | attemptBegun c a changed =>
    refine Variant.decode_record rfl (by simp [members]) (.seq (.seq (.map ?_ _) ?_) ?_)
    · exact reads_present rfl c.decode_encode
    · exact reads_present rfl a.decode_encode
    · exact reads_present rfl rfl
  | rendered c a signaled =>
    refine Variant.decode_record rfl (by simp [members]) (.seq (.seq (.map ?_ _) ?_) ?_)
    · exact reads_present rfl c.decode_encode
    · exact reads_present rfl a.decode_encode
    · exact reads_present rfl rfl
  | failed c a =>
    refine Variant.decode_record rfl (by simp [members]) (.seq (.map ?_ _) ?_)
    · exact reads_present rfl c.decode_encode
    · exact reads_present rfl a.decode_encode
  | callbackDropped c a reason =>
    refine Variant.decode_record rfl (by simp [members]) (.seq (.seq (.map ?_ _) ?_) ?_)
    · exact reads_present rfl c.decode_encode
    · exact reads_present rfl a.decode_encode
    · exact reads_present rfl reason.decode_encode

/-! ## Strategies and configurations -/

/-- A strategy is read from among other members, at once or after it was held. -/
theorem Strategy.reads_members {rule : Decoder MetricLabelRule} {engine : Decoder DrawEngine}
    (rules : ∀ r : MetricLabelRule, rule (.str r.name) = .ok r)
    (engines : ∀ e : DrawEngine, engine (.str e.name) = .ok e) (s : Strategy)
    {members : List (String × Json)}
    (there : ∀ member ∈ s.members, members.lookup member.1 = some member.2) :
    (fieldsWith rule engine).Reads members s := by
  refine .seq (.seq (.map ?_ _) ?_) ?_
  · exact reads_present (there _ List.mem_cons_self) rfl
  · refine reads_present (there _ (List.mem_cons_of_mem _ List.mem_cons_self)) ?_
    cases s.metricLabel with
    | none => rfl
    | some r => exact congrArg (Except.map some) (rules r)
  · exact reads_present
      (there _ (List.mem_cons_of_mem _ (List.mem_cons_of_mem _ List.mem_cons_self))) (engines s.engine)

/-- A strategy that stands alone comes back. -/
theorem Strategy.decode_encode (s : Strategy) : Wire.decode (Wire.encode s) = .ok s := by
  have distinct : (s.members.map Prod.fst).Nodup := by simp [members]
  refine record_of_reads distinct (s.reads_members ?_ ?_ ?_)
  · intro r
    cases r <;> rfl
  · intro e
    cases e <;> rfl
  · exact fun member inside => Fields.lookup_of_mem distinct inside

/-- The members of a row: its type and those of its strategy. -/
theorem StrategyRow.distinct_members (r : StrategyRow) :
    ((("viz_type", Json.str r.vizType.tag) :: r.strategy.members).map Prod.fst).Nodup := by
  simp [Strategy.members]

/-- Every member of a strategy names a value. -/
theorem Strategy.readable_members (s : Strategy) : Json.readableMembers s.members = true := by
  obtain ⟨always, label, engine⟩ := s
  cases label <;> rfl

theorem StrategyRow.readable_encode (r : StrategyRow) : (Wire.encode r).readable = true :=
  r.strategy.readable_members

theorem StrategyRow.depth_encode (r : StrategyRow) : (Wire.encode r).depth = 1 := by
  obtain ⟨v, always, label, engine⟩ := r
  cases label <;> rfl

/-- The strategy of a row is written among its other members. It comes back from these, the type being read
first. -/
theorem StrategyRow.decode_encode (r : StrategyRow) : Wire.decode (Wire.encode r) = .ok r := by
  have distinct := r.distinct_members
  have vizType : (Fields.required "viz_type" Wire.decode).ofMembers
      (("viz_type", .str r.vizType.tag) :: r.strategy.members) = .ok r.vizType :=
    Fields.ofMembers_of_reads distinct (reads_present rfl r.vizType.decode_encode)
  have readable : Json.readableMembers
      (("viz_type", .str r.vizType.tag) :: r.strategy.members) = true := r.readable_encode
  have strategy : Strategy.heldFields.ofMembers
      (("viz_type", .str r.vizType.tag) :: r.strategy.members) = .ok r.strategy := by
    refine Fields.ofMembers_of_reads distinct (r.strategy.reads_members ?_ ?_ ?_)
    · intro rule
      cases rule <;> rfl
    · intro engine
      cases engine <;> rfl
    · intro member inside
      exact Fields.lookup_of_mem distinct (List.mem_cons_of_mem _ inside)
  change StrategyRow.decode (.obj _) = _
  unfold StrategyRow.decode
  dsimp only
  rw [vizType, readable, strategy]
  rfl

/-- A configuration comes back with its rows in their order. -/
theorem RenderConfig.decode_encode (c : RenderConfig) : Wire.decode (Wire.encode c) = .ok c := by
  refine record_of_reads (by simp) (.seq (.seq (.map ?_ _) ?_) ?_)
  · exact reads_present rfl rfl
  · exact reads_present rfl (Decoder.list_map fun _ _ => rfl)
  · exact reads_present rfl (Decoder.list_map fun row _ => row.decode_encode)

end Redraw
