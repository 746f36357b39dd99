import Redraw.Proofs.Attempt.Turns

/-!
# Every attempt is accounted for

An attempt is outstanding while its beginning is the last turn of its chart. So a beginning is followed by
the end of the attempt, by the beginning of a newer one, by a removal of the chart, or by nothing yet, and
each attempt that has begun is counted once.
-/

namespace Redraw

/-! ## Runs -/

/-- The log of turns of a chart and the attempt of the chart that is outstanding. -/
structure Ledger (c : ChartId) (h : History) (d : Dashboard) : Prop where
  orderly : Orderly (turnsOf c h)
  outstanding : ∀ a, (turnsOf c h).getLast? = some (.begun a) ↔ (d.active? c).map (·.attempt) = some a
  balance : (turnsOf c h).countP (·.isBegun) =
    (turnsOf c h).countP (·.isEnded) + h.countP (·.supersedes c) + h.countP (·.abandons c) +
      if (d.active? c).isSome then 1 else 0

theorem turnsOf_snoc (c : ChartId) (h : History) (m : Moment) :
    turnsOf c (h ++ [m]) = turnsOf c h ++ m.turns c := by
  simp [turnsOf]

/-- Every moment keeps the ledger. -/
theorem Ledger.step {c : ChartId} {h : History} {m : Moment} (k : Ledger c h m.before)
    (consistent : m.before.Consistent) : Ledger c (h ++ [m]) m.after := by
  have balance : (turnsOf c (h ++ [m])).countP (·.isBegun) =
      (turnsOf c (h ++ [m])).countP (·.isEnded) + (h ++ [m]).countP (·.supersedes c) +
        (h ++ [m]).countP (·.abandons c) + if (m.after.active? c).isSome then 1 else 0 := by
    have before := k.balance
    have now := m.balance consistent c
    simp only [turnsOf_snoc, List.countP_append, List.countP_singleton]
    omega
  cases m.turning consistent c with
  | begins r begun stays turns active =>
    refine ⟨?_, fun a => ?_, balance⟩
    · rw [turnsOf_snoc, turns]
      exact k.orderly.snoc (by simp)
    · rw [turnsOf_snoc, turns, active]
      simp
  | refuses a begun stays turns active =>
    have split : turnsOf c (h ++ [m]) = turnsOf c h ++ [.begun a] ++ [.ended a] := by
      rw [turnsOf_snoc, turns, List.append_assoc]
      rfl
    refine ⟨?_, fun b => ?_, balance⟩
    · have begins : Orderly (turnsOf c h ++ [.begun a]) := k.orderly.snoc (by simp)
      rw [split]
      refine begins.snoc fun b ended => ?_
      rw [List.getLast?_concat, Turn.ended.inj ended]
    · rw [split, active]
      simp
  | ends r outstanding begun stays turns active =>
    refine ⟨?_, fun a => ?_, balance⟩
    · rw [turnsOf_snoc, turns]
      refine k.orderly.snoc fun a ended => (k.outstanding a).2 ?_
      rw [outstanding, ← Turn.ended.inj ended]
      rfl
    · rw [turnsOf_snoc, turns, active]
      simp
  | leaves begun removed turns active =>
    refine ⟨?_, fun a => ?_, balance⟩
    · rw [turnsOf_snoc, turns]
      exact k.orderly.snoc (by simp)
    · rw [turnsOf_snoc, turns, active]
      simp
  | rests begun stays turns active =>
    refine ⟨?_, fun a => ?_, balance⟩
    · rw [turnsOf_snoc, turns, List.append_nil]
      exact k.orderly
    · rw [turnsOf_snoc, turns, List.append_nil, active]
      exact k.outstanding a

variable {registry : Registry} {namer : ClassNamer} {clock : Clock} {sink : TelemetrySink}
  {hooks : Hooks}

/-- The ledger of every chart is kept throughout every run. -/
theorem Ledger.run {c : ChartId} (ops : List Operation) :
    Ledger c ((Dashboard.new registry namer clock sink hooks).history ops)
      ((Dashboard.new registry namer clock sink hooks).after ops) := by
  refine (Dashboard.run_induction (I := fun h d => d.Consistent ∧ Ledger c h d)
    ⟨Dashboard.consistent_after [], orderly_nil, ?_, rfl⟩ ?_ ops).2
  · intro a
    simp [turnsOf, Dashboard.active?, Dashboard.new]
  · rintro h e op ⟨consistent, k⟩
    exact ⟨consistent.step op, k.step (m := ⟨e, op⟩) consistent⟩

/-! ## Events and turns -/

/-- The events that are told of a chart may be counted by the turns that they tell of. -/
theorem countP_toldOf {p : LifecycleEvent → Bool} {q : Turn → Bool} (c : ChartId) (h : History)
    (same : ∀ e : LifecycleEvent, p e = e.turn?.any q) (untold : q .removed = false) :
    (toldOf c h).countP p = (turnsOf c h).countP q := by
  induction h with
  | nil => rfl
  | cons m rest ih =>
    have events : (m.reply.events.filter (·.chart = c)).countP p =
        ((m.reply.events.filter (·.chart = c)).filterMap (·.turn?)).countP q := by
      rw [List.countP_filterMap]
      refine List.countP_congr fun e _ => ?_
      rw [same e]
      cases e.turn? <;> rfl
    have removal : (if m.op.removed? = some c then [Turn.removed] else []).countP q = 0 := by
      split <;> simp [untold]
    have now : (m.reply.events.filter (·.chart = c)).countP p = (m.turns c).countP q := by
      rw [Moment.turns, List.countP_append, removal, events, Nat.add_zero]
    have first : toldOf c (m :: rest) = m.reply.events.filter (·.chart = c) ++ toldOf c rest := by
      simp [toldOf, told]
    rw [first, List.countP_append, now, ih]
    simp [turnsOf]

/-- What has ended has rendered its chart or has failed. -/
theorem countP_ended (events : List LifecycleEvent) :
    events.countP (fun e => e.isRendered || e.isFailed) =
      events.countP (·.isRendered) + events.countP (·.isFailed) := by
  induction events with
  | nil => rfl
  | cons e rest ih =>
    rw [List.countP_cons, List.countP_cons, List.countP_cons, ih]
    cases e <;> simp [LifecycleEvent.isRendered, LifecycleEvent.isFailed] <;> omega

theorem countP_begun_toldOf (c : ChartId) (h : History) :
    (toldOf c h).countP (·.isBegun) = (turnsOf c h).countP (·.isBegun) :=
  countP_toldOf c h (fun e => by cases e <;> rfl) rfl

theorem countP_ended_toldOf (c : ChartId) (h : History) :
    (toldOf c h).countP (·.isRendered) + (toldOf c h).countP (·.isFailed) =
      (turnsOf c h).countP (·.isEnded) := by
  rw [← countP_ended]
  exact countP_toldOf c h (fun e => by cases e <;> rfl) rfl

/-- The log has the attempts of the chart in the order in which they begin. -/
theorem count_begun_turnsOf (c : ChartId) (h : History) (a : AttemptId) :
    (turnsOf c h).count (.begun a) = (begunFor c h).count a := by
  induction h with
  | nil => rfl
  | cons m rest ih =>
    have now : (m.turns c).count (.begun a) = (m.begun? c).toList.count a := by
      rw [m.turns_eq c]
      cases m.begun? c <;> cases m.ended? c <;> by_cases removed : m.op.removed? = some c <;>
        simp [removed, List.count_cons]
    have first : begunFor c (m :: rest) = (m.begun? c).toList ++ begunFor c rest := by
      unfold begunFor
      rw [List.filterMap_cons]
      cases m.begun? c <;> rfl
    have turns : turnsOf c (m :: rest) = m.turns c ++ turnsOf c rest := by simp [turnsOf]
    rw [first, turns, List.count_append, List.count_append, now, ih]

theorem count_begun_le_one {c : ChartId} {h : History} {d : Dashboard} (n : Numbering c h d)
    (few : (begunFor c h).length < UInt64.size) (a : AttemptId) :
    (turnsOf c h).count (.begun a) ≤ 1 := by
  rw [count_begun_turnsOf, n.ids]
  exact List.nodup_iff_count_le_one.1 (nodup_firstAttempts few) a

/-- Every applied callback and every refusal of the engine is told of as an end. -/
theorem Moment.applied_add_refused (m : Moment) :
    (if m.reply.answer.isApplied then 1 else 0) + (if m.refused?.isSome then 1 else 0) =
      m.reply.events.countP (·.isRendered) + m.reply.events.countP (·.isFailed) := by
  cases m.announcement with
  | begins r begun completion events =>
    have unapplied := (not_callback_of_begun begun).1
    have accepted : m.refused? = none := (completion?_of_unapplied unapplied).symm.trans completion
    rw [events, unapplied, accepted]
    rfl
  | refuses r error begun completion events =>
    have unapplied := (not_callback_of_begun begun).1
    have refused := (completion?_of_unapplied unapplied).symm.trans completion
    rw [events, unapplied, refused]
    rfl
  | completes x signaled emitted answer completion events =>
    have accepted : m.refused? = none := refused?_of_none (by rw [answer]; rfl)
    rw [events, answer, accepted]
    cases x.ending <;> rfl
  | drops k a reason _ answer completion events =>
    have accepted : m.refused? = none := refused?_of_none (by rw [answer]; rfl)
    rw [events, answer, accepted]
    rfl
  | withholds k decision answer completion events =>
    have accepted : m.refused? = none := refused?_of_none (by rw [answer]; rfl)
    rw [events, answer, accepted]
    rfl
  | nothing begun unapplied _ _ events =>
    rw [events, unapplied, refused?_of_none begun]
    rfl

theorem countP_applied_add_refused (h : History) :
    h.countP (·.reply.answer.isApplied) + h.countP (·.refused?.isSome) =
      (told h).countP (·.isRendered) + (told h).countP (·.isFailed) := by
  induction h with
  | nil => rfl
  | cons m rest ih =>
    have now := m.applied_add_refused
    have first : told (m :: rest) = m.reply.events ++ told rest := by simp [told]
    rw [first, List.countP_append, List.countP_append, List.countP_cons, List.countP_cons]
    omega

theorem Dashboard.Consistent.isAttempting_iff {d : Dashboard} (k : d.Consistent) (c : ChartId) :
    (d.phase c).isAttempting = (d.active? c).isSome := by
  unfold phase active?
  cases known : d.tracks.get? c with
  | none => rfl
  | some t =>
    show t.phase.isAttempting = t.active.isSome
    cases active : t.active with
    | none =>
      rcases (k c t known).settled_iff.1 active with ended | ended <;> rw [ended] <;> rfl
    | some r =>
      rw [((k c t known).attempt_eq active).2]
      rfl

/-- Take any run and any chart. Of the attempts of the chart that observers are told have begun, each has
been told to have rendered the chart or to have failed, or it was outstanding when a newer one began, or it
was outstanding when the chart was removed or forgotten, or it is outstanding now. In the log of what is told
and of removals an end comes right after the beginning of the same attempt, and an attempt is outstanding
exactly while its beginning is the last turn. So no attempt ends more often than it begins, which is at most
once as long as the attempts of the chart have not used up all of the numbers. Over all charts, the ends that
are told are as many as the callbacks that are applied and the attempts that the engine refuses. -/
theorem attempts_are_accounted_for (registry : Registry) (namer : ClassNamer) (clock : Clock)
    (sink : TelemetrySink) (hooks : Hooks) (ops : List Operation) (c : ChartId) :
    let d := (Dashboard.new registry namer clock sink hooks).after ops
    let h := (Dashboard.new registry namer clock sink hooks).history ops
    ((toldOf c h).countP (·.isBegun) =
      (toldOf c h).countP (·.isRendered) + (toldOf c h).countP (·.isFailed) +
        h.countP (·.supersedes c) + h.countP (·.abandons c) +
        if (d.phase c).isAttempting then 1 else 0) ∧
    Orderly (turnsOf c h) ∧
    (∀ a, (turnsOf c h).getLast? = some (.begun a) ↔ (d.active? c).map (·.attempt) = some a) ∧
    (∀ a, (turnsOf c h).count (.ended a) ≤ (turnsOf c h).count (.begun a)) ∧
    ((begunFor c h).length < UInt64.size → ∀ a, (turnsOf c h).count (.ended a) ≤ 1) ∧
    h.countP (·.reply.answer.isApplied) + h.countP (·.refused?.isSome) =
      (told h).countP (·.isRendered) + (told h).countP (·.isFailed) := by
  intro d h
  have consistent : d.Consistent := Dashboard.consistent_after ops
  have ledger : Ledger c h d := Ledger.run ops
  have numbering : Numbering c h d := Numbering.run ops
  have once : ∀ a, (turnsOf c h).count (.ended a) ≤ (turnsOf c h).count (.begun a) := fun a =>
    Nat.le_of_add_right_le (ledger.orderly.count_ended a)
  refine ⟨?_, ledger.orderly, ledger.outstanding, once, fun few a => ?_, ?_⟩
  · rw [countP_begun_toldOf, countP_ended_toldOf, consistent.isAttempting_iff]
    exact ledger.balance
  · exact Nat.le_trans (once a) (count_begun_le_one numbering few a)
  · exact countP_applied_add_refused h

/-- Of four attempts one is superseded, one renders its chart, one is refused and one is forgotten. None ends
twice. -/
theorem four_attempts_end_at_most_once :
    let untyped : RenderInput := { RenderInput.plain ⟨7⟩ with vizType := ⟨""⟩ }
    let ops : List Operation :=
      [.begin (.plain ⟨7⟩), .begin (.plain ⟨7⟩), .complete ⟨7⟩ ⟨1⟩ .success,
        .complete ⟨7⟩ ⟨2⟩ .success, .begin untyped, .begin (.plain ⟨7⟩), .forget ⟨7⟩]
    let h := Dashboard.blank.history ops
    (begunFor ⟨7⟩ h).length < UInt64.size ∧
      turnsOf ⟨7⟩ h =
        [.begun ⟨1⟩, .begun ⟨2⟩, .ended ⟨2⟩, .begun ⟨3⟩, .ended ⟨3⟩, .begun ⟨4⟩, .removed] ∧
      Orderly (turnsOf ⟨7⟩ h) ∧ ∀ a, (turnsOf ⟨7⟩ h).count (.ended a) ≤ 1 := by
  intro untyped ops h
  have few : (begunFor ⟨7⟩ h).length < UInt64.size := by decide
  obtain ⟨-, orderly, -, -, once, -⟩ :=
    attempts_are_accounted_for ∅ .default { epoch := 0 } .recording {} ops ⟨7⟩
  exact ⟨few, by decide, orderly, once few⟩

end Redraw
