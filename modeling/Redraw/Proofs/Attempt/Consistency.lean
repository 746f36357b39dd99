import Redraw.Proofs.Attempt.Numbering

/-!
# Tracks agree with themselves

A track says twice whether an attempt is outstanding: by its record and by its phase. Beginning,
settling and refusing write the two at different places, and yet between operations they agree on
every track that a dashboard can reach: a track is attempting exactly while it has a record, and the
record is that of its newest attempt and its own chart.
-/

namespace Redraw

/-- The record, the phase and the number of the track of a chart agree. -/
structure Track.Consistent (t : Track) (c : ChartId) : Prop where
  not_idle : t.phase ≠ .idle
  active_iff : (∃ r, t.active = some r) ↔ ∃ n, t.phase = .attempting n
  newest : ∀ r n, t.active = some r → t.phase = .attempting n →
    r.attempt = n ∧ n = t.latest ∧ r.chart = c
  settled_iff : t.active = none ↔ t.phase = .rendered ∨ t.phase = .errored

/-- Every track of the dashboard is consistent. -/
def Dashboard.Consistent (d : Dashboard) : Prop :=
  ∀ c t, d.tracks.get? c = some t → t.Consistent c

namespace Track

theorem consistent_begin (t : Track) {r : AttemptRecord} {c : ChartId} (chart : r.chart = c)
    (result : Option (Payload QueryResult)) : (t.begin r result).Consistent c := by
  constructor
  · simp [begin]
  · simp [begin]
  · intro s n active phase
    obtain rfl : r = s := Option.some.inj active
    obtain rfl : r.attempt = n := Phase.attempting.inj phase
    exact ⟨rfl, rfl, chart⟩
  · simp [begin]

theorem consistent_close (t : Track) (c : ChartId) {phase : Phase}
    (ended : phase = .rendered ∨ phase = .errored) : (t.close phase).Consistent c := by
  constructor
  · rcases ended with rfl | rfl <;> simp [close]
  · rcases ended with rfl | rfl <;> simp [close]
  · intro s n active
    cases active
  · simpa [close] using ended

/-- An outstanding attempt is the newest of its track. -/
theorem Consistent.attempt_eq {t : Track} {c : ChartId} (k : t.Consistent c) {r : AttemptRecord}
    (active : t.active = some r) : r.attempt = t.latest ∧ t.phase = .attempting t.latest := by
  obtain ⟨n, phase⟩ := k.active_iff.1 ⟨r, active⟩
  obtain ⟨same, newest, -⟩ := k.newest r n active phase
  exact ⟨same.trans newest, newest ▸ phase⟩

/-- The record of an outstanding attempt names the chart that the track is kept for. -/
theorem Consistent.chart_eq {t : Track} {c : ChartId} (k : t.Consistent c) {r : AttemptRecord}
    (active : t.active = some r) : r.chart = c :=
  (k.newest r t.latest active (k.attempt_eq active).2).2.2

end Track

theorem Ending.phase_ended (e : Ending) : e.phase = .rendered ∨ e.phase = .errored := by
  cases e with
  | success => exact .inl rfl
  | failure error stack => exact .inr rfl

namespace Dashboard

theorem consistent_begunTrack (d : Dashboard) (i : RenderInput) :
    (d.begunTrack i).Consistent i.chart := by
  unfold begunTrack
  by_cases refused : i.refusal?.isSome = true
  · rw [if_pos refused]
    exact Track.consistent_close _ _ (.inr rfl)
  · rw [if_neg refused]
    exact Track.consistent_begin _ rfl _

/-- Every operation keeps the tracks consistent. -/
theorem Consistent.step {d : Dashboard} (k : d.Consistent) (op : Operation) :
    (d.step op).1.Consistent := by
  intro c t known
  have after : (⟨d, op⟩ : Moment).after.tracks.get? c = some t := known
  cases (⟨d, op⟩ : Moment).move c with
  | begins i _ chart _ _ _ track _ =>
    rw [track] at after
    obtain rfl := Option.some.inj after
    exact chart ▸ consistent_begunTrack d i
  | settles s r e _ _ _ _ _ track _ =>
    rw [track] at after
    obtain rfl := Option.some.inj after
    exact Track.consistent_close s c e.phase_ended
  | forgets s _ _ _ _ track _ =>
    rw [track] at after
    exact nomatch after
  | rests _ _ _ track _ =>
    rw [track] at after
    exact k c t after

variable {registry : Registry} {namer : ClassNamer} {clock : Clock} {sink : TelemetrySink}
  {hooks : Hooks}

/-- The tracks are consistent throughout every run. -/
theorem consistent_after (ops : List Operation) :
    ((new registry namer clock sink hooks).after ops).Consistent :=
  run_induction (I := fun _ d => d.Consistent) (fun c t known => by simp [new] at known)
    (fun _ _ op k => k.step op) ops

end Dashboard

/-- Whatever a run has done, every track is consistent, its newest attempt has a number, and what the
dashboard tells about a chart is what its track says. The number is at least one as long as the attempts
of the chart have not used up all of the 64-bit numbers. -/
theorem outstanding_attempt_is_newest (registry : Registry) (namer : ClassNamer) (clock : Clock)
    (sink : TelemetrySink) (hooks : Hooks) (ops : List Operation) (c : ChartId) :
    let d := (Dashboard.new registry namer clock sink hooks).after ops
    let h := (Dashboard.new registry namer clock sink hooks).history ops
    (∀ t, d.tracks.get? c = some t →
      t.Consistent c ∧ ((begunFor c h).length < UInt64.size → 1 ≤ t.latest.raw)) ∧
    ((∃ r, d.active? c = some r) ↔ ∃ n, d.phase c = .attempting n) ∧
    (∀ r, d.active? c = some r →
      r.chart = c ∧ d.phase c = .attempting r.attempt ∧ d.latest? c = some r.attempt) := by
  intro d h
  have consistent : d.Consistent := Dashboard.consistent_after ops
  have numbering : Numbering c h d := Numbering.run ops
  refine ⟨fun t known => ⟨consistent c t known, fun few => ?_⟩, ?_, ?_⟩
  · rw [numbering.latest_eq known, UInt64.le_iff_toNat_le, AttemptId.toNat_nth few]
    exact numbering.length_pos known
  · unfold Dashboard.active? Dashboard.phase
    cases known : d.tracks.get? c with
    | none => simp
    | some t => exact (consistent c t known).active_iff
  · intro r active
    unfold Dashboard.active? at active
    obtain ⟨t, known, outstanding⟩ := Option.bind_eq_some_iff.1 active
    obtain ⟨number, phase⟩ := (consistent c t known).attempt_eq outstanding
    refine ⟨(consistent c t known).chart_eq outstanding, ?_, ?_⟩
    · unfold Dashboard.phase
      rw [known, number]
      exact phase
    · unfold Dashboard.latest?
      rw [known, number]
      rfl

/-- A chart that comes back is attempting with its second attempt. -/
theorem returned_chart_attempts_again :
    let ops : List Operation := [.begin (.plain ⟨7⟩), .remove ⟨7⟩, .begin (.plain ⟨7⟩)]
    let d := Dashboard.blank.after ops
    let h := Dashboard.blank.history ops
    (begunFor ⟨7⟩ h).length < UInt64.size ∧ d.latest? ⟨7⟩ = some ⟨2⟩ ∧
      ∃ t r, d.tracks.get? ⟨7⟩ = some t ∧ t.Consistent ⟨7⟩ ∧ 1 ≤ t.latest.raw ∧
        d.active? ⟨7⟩ = some r ∧ r.chart = ⟨7⟩ ∧ d.phase ⟨7⟩ = .attempting r.attempt := by
  intro ops d h
  have few : (begunFor ⟨7⟩ h).length < UInt64.size := by decide
  obtain ⟨t, known⟩ := Option.isSome_iff_exists.1 (show (d.tracks.get? ⟨7⟩).isSome = true by decide)
  obtain ⟨r, active⟩ := Option.isSome_iff_exists.1 (show (d.active? ⟨7⟩).isSome = true by decide)
  obtain ⟨tracked, -, outstanding⟩ :=
    outstanding_attempt_is_newest ∅ .default { epoch := 0 } .recording {} ops ⟨7⟩
  obtain ⟨consistent, numbered⟩ := tracked t known
  obtain ⟨chart, phase, -⟩ := outstanding r active
  exact ⟨few, by decide, t, r, known, consistent, numbered few, active, chart, phase⟩

end Redraw
