import Redraw.Proofs.Attempt.Completions
import Redraw.Proofs.Chart.Independence

/-!
# Charts whose attempts are numbered differently

Two dashboards may hold the same about a chart but for the numbers of its attempts, which are all larger
by the same amount on the second one. What is done to the chart then goes the same way on both, up to the
numbers, and leads to dashboards that again differ in the numbers only. The numbers of a chart are kept in
its track, its phase and its retired number, and they appear in records, answers and events; `later`
moves each of them.
-/

namespace Redraw

/-! ## Larger numbers -/

/-- The attempt whose number is larger by `n`. -/
def AttemptId.later (n : Nat) (a : AttemptId) : AttemptId := ⟨a.raw + .ofNat n⟩

/-- The record of the attempt whose number is larger. -/
def AttemptRecord.later (n : Nat) (r : AttemptRecord) : AttemptRecord :=
  { r with attempt := r.attempt.later n }

/-- The phase of a chart whose attempts have larger numbers. -/
def Phase.later (n : Nat) : Phase → Phase
  | attempting a => attempting (a.later n)
  | idle => idle
  | rendered => rendered
  | errored => errored

/-- Why a callback is dropped where the newest attempt has a larger number. -/
def DropReason.later (n : Nat) : DropReason → DropReason
  | superseded latest => superseded (latest.later n)
  | alreadySettled => alreadySettled
  | unknownChart => unknownChart

/-- What a callback for the attempt with the larger number leads to. -/
def CallbackOutcome.later (n : Nat) : CallbackOutcome → CallbackOutcome
  | applied statusSignaled telemetryEmitted => applied statusSignaled telemetryEmitted
  | dropped reason => dropped (reason.later n)

/-- What an input leads to where attempts get larger numbers. -/
def SubmitOutcome.later (n : Nat) : SubmitOutcome → SubmitOutcome
  | started record => started (record.later n)
  | withheld decision => withheld decision
  | skipped reason => skipped reason

/-- The event about the attempt with the larger number. -/
def LifecycleEvent.later (n : Nat) : LifecycleEvent → LifecycleEvent
  | redrawWithheld c decision => redrawWithheld c decision
  | attemptBegun c a resultChanged => attemptBegun c (a.later n) resultChanged
  | rendered c a statusSignaled => rendered c (a.later n) statusSignaled
  | failed c a => failed c (a.later n)
  | callbackDropped c a reason => callbackDropped c (a.later n) (reason.later n)

/-- The answer to an operation on a chart whose attempts have larger numbers. -/
def Answer.later (n : Nat) : Answer → Answer
  | submitted o => submitted (o.later n)
  | begun r => begun (r.later n)
  | request d => request { d with attempt := d.attempt.later n }
  | callback o => callback (o.later n)
  | answer => answer

/-- The operation with larger numbers for the attempts of a chart. -/
def Operation.later (c : ChartId) (n : Nat) : Operation → Operation
  | complete k a e => complete k (if k = c then a.later n else a) e
  | completeRecord r e => completeRecord (if r.chart = c then r.later n else r) e
  | buildRequest i a => buildRequest i (if i.chart = c then a.later n else a)
  | op => op

/-- The track with larger numbers. -/
def Track.later (n : Nat) (t : Track) : Track :=
  { t with latest := t.latest.later n, active := t.active.map (·.later n), phase := t.phase.later n }

/-- Numbers stay apart when they grow by the same amount. -/
theorem AttemptId.later_inj {n : Nat} {a b : AttemptId} : a.later n = b.later n ↔ a = b := by
  obtain ⟨x⟩ := a
  obtain ⟨y⟩ := b
  simp [later]

/-- Counting on and adding commute, also where the numbers wrap. -/
theorem AttemptId.next_later (n : Nat) (a : AttemptId) : (a.later n).next = a.next.later n := by
  unfold later next
  simp only [UInt64.add_assoc, UInt64.add_comm (.ofNat n) 1]

/-- As long as it fits, the larger number is the sum. -/
theorem AttemptId.toNat_later {n : Nat} {a : AttemptId} (fits : a.raw.toNat + n < UInt64.size) :
    (a.later n).raw.toNat = a.raw.toNat + n := by
  have small : n < UInt64.size := by omega
  unfold later
  rw [UInt64.toNat_add, UInt64.toNat_ofNat_of_lt' small]
  exact Nat.mod_eq_of_lt fits

/-- An event is about the same chart with the larger number. -/
@[simp]
theorem LifecycleEvent.chart_later (n : Nat) (e : LifecycleEvent) : (e.later n).chart = e.chart := by
  cases e <;> rfl

/-- Only operations on the chart name its attempts. -/
theorem Operation.later_eq_self {c : ChartId} {op : Operation} (n : Nat) (other : op.chart? ≠ some c) :
    op.later c n = op := by
  cases op with
  | complete k a e =>
    have foreign : ¬ k = c := fun same => other (congrArg some same)
    simp [later, foreign]
  | completeRecord r e =>
    have foreign : ¬ r.chart = c := fun same => other (congrArg some same)
    simp [later, foreign]
  | buildRequest i a =>
    have foreign : ¬ i.chart = c := fun same => other (congrArg some same)
    simp [later, foreign]
  | _ => rfl

namespace Track

variable (n : Nat) (t : Track)

/-- The next record differs in its number only. -/
theorem nextRecord_later (i : RenderInput) (now : Float) :
    (t.later n).nextRecord i now = (t.nextRecord i now).later n := by
  unfold nextRecord AttemptRecord.later
  rw [← AttemptId.next_later]
  rfl

/-- Closing and adding commute where the phase names no attempt. -/
theorem close_later {phase : Phase} (same : phase.later n = phase) :
    (t.later n).close phase = (t.close phase).later n := by
  unfold close later
  simp only [same]
  rfl

/-- The attempt with the larger number is settled as the attempt is. -/
theorem settle_later (a : AttemptId) :
    ((t.later n).settle (a.later n)).1 =
      match (t.settle a).1 with
      | .ok r => .ok (r.later n)
      | .error reason => .error (reason.later n) := by
  cases t.settlement a with
  | superseded older outcome =>
    have differ : a.later n ≠ (t.later n).latest := mt AttemptId.later_inj.1 older
    rw [outcome, settle_superseded differ]
    rfl
  | ended newest others outcome =>
    subst newest
    have differ : ∀ r, (t.later n).active = some r → r.attempt ≠ (t.later n).latest := by
      intro r active
      obtain ⟨s, known, rfl⟩ := Option.map_eq_some_iff.1 active
      exact mt AttemptId.later_inj.1 (others s known)
    rw [outcome]
    exact congrArg Prod.fst (settle_ended differ)
  | taken r newest active attempt outcome =>
    subst newest
    have known : (t.later n).active = some (r.later n) :=
      congrArg (Option.map fun s => AttemptRecord.later n s) active
    have same : (r.later n).attempt = (t.later n).latest := congrArg (·.later n) attempt
    rw [outcome]
    exact congrArg Prod.fst (settle_taken known same)

end Track

theorem Ending.phase_later (n : Nat) (e : Ending) : e.phase.later n = e.phase := by
  cases e <;> rfl

/-- What is told of an ending names the larger number. -/
theorem Ending.event_later (n : Nat) (e : Ending) (c : ChartId) (a : AttemptId) (signaled : Bool) :
    e.event c (a.later n) signaled = (e.event c a signaled).later n := by
  cases e <;> rfl

/-! ## Dashboards that differ in the numbers -/

/-- The dashboard without its attempts, and without those who listen to it. -/
def Dashboard.bare (d : Dashboard) : Dashboard :=
  { d with sink := .discarding, hooks := {}, queue := {}, tracks := ∅, retired := ∅, observers := [] }

/-- The second dashboard holds about a chart what the first one does, but all its attempts have numbers
that are larger by `n`. -/
structure Dashboard.Renumbered (c : ChartId) (n : Nat) (d e : Dashboard) : Prop where
  rest : d.bare.Agree c e.bare
  tracks : e.tracks.get? c = (d.tracks.get? c).map (·.later n)
  track : e.track c = (d.track c).later n

/-- Two actions go the same way for a chart, up to the numbers of its attempts. -/
structure Outcome.Renumbered {α : Type} (c : ChartId) (n : Nat) (later : α → α) (o p : Outcome α) :
    Prop where
  value : p.value = later o.value
  dashboard : o.dashboard.Renumbered c n p.dashboard
  telemetry : p.emitted.telemetry = o.emitted.telemetry
  events : p.emitted.events = o.emitted.events.map (·.later n)

namespace Dashboard

variable {c : ChartId} {n : Nat} {d e : Dashboard} {i : RenderInput}

theorem Agree.bare {d' : Dashboard} (a : d.Agree c d') : d.bare.Agree c d'.bare :=
  ⟨a.registry, a.namer, a.clock, rfl, rfl, rfl, a.board, rfl, rfl, a.seen, rfl⟩

namespace Renumbered

/-- A track that is known says what the next attempt resumes after. -/
theorem of_known {t : Track} (rest : d.bare.Agree c e.bare) (left : d.tracks.get? c = some t)
    (right : e.tracks.get? c = some (t.later n)) : d.Renumbered c n e where
  rest := rest
  tracks := by rw [left, right, Option.map_some]
  track := by rw [track_of_known left, track_of_known right]

/-- What changes nothing about the chart changes nothing about the numbers either. -/
theorem of_agree (k : d.Renumbered c n e) {d' e' : Dashboard} (a : d.Agree c d') (b : e.Agree c e') :
    d'.Renumbered c n e' where
  rest := a.bare.symm.trans (k.rest.trans b.bare)
  tracks := by rw [← a.tracks, ← b.tracks, k.tracks]
  track := by rw [← a.track_eq, ← b.track_eq, k.track]

/-- A change of the chart's entry on both boards. -/
theorem update (k : d.Renumbered c n e) (change : StatusEntry → StatusEntry) :
    Renumbered c n { d with board := d.board.update c change }
      { e with board := e.board.update c change } :=
  ⟨k.rest.update change, k.tracks, k.track⟩

theorem phase_eq (k : d.Renumbered c n e) : e.phase c = (d.phase c).later n := by
  unfold phase
  rw [k.tracks]
  cases d.tracks.get? c <;> rfl

/-- The record that is outstanding differs in its number only. -/
theorem active_eq (k : d.Renumbered c n e) : e.active? c = (d.active? c).map (·.later n) := by
  unfold active?
  rw [k.tracks]
  cases d.tracks.get? c <;> rfl

theorem latest_eq (k : d.Renumbered c n e) : e.latest? c = (d.latest? c).map (·.later n) := by
  unfold latest?
  rw [k.tracks]
  cases d.tracks.get? c <;> rfl

theorem snapshot_eq (k : d.Renumbered c n e) : d.board.snapshot c = e.board.snapshot c :=
  k.rest.snapshot_eq

/-- The gate knows nothing of numbers. -/
theorem decision_eq (k : d.Renumbered i.chart n e) : d.decision? i = e.decision? i :=
  k.rest.decision_eq

/-- A callback with the larger number is settled or dropped as the callback is. -/
theorem settle_eq (k : d.Renumbered c n e) (a : AttemptId) :
    (e.settle c (a.later n)).1 =
      match (d.settle c a).1 with
      | .ok r => .ok (r.later n)
      | .error reason => .error (reason.later n) := by
  unfold settle
  rw [k.tracks]
  cases d.tracks.get? c with
  | none => rfl
  | some t => exact t.settle_later n a

theorem nextRecord_eq (k : d.Renumbered i.chart n e) :
    e.nextRecord i = (d.nextRecord i).later n := by
  have clock : d.clock = e.clock := k.rest.clock
  unfold nextRecord
  rw [k.track, Track.nextRecord_later, clock]

/-- The track of an attempt that has begun differs in its numbers only. -/
theorem begunTrack_eq (k : d.Renumbered i.chart n e) :
    e.begunTrack i = (d.begunTrack i).later n := by
  unfold begunTrack
  rw [k.track, k.nextRecord_eq]
  have errored : Phase.errored.later n = .errored := rfl
  split
  · exact Track.close_later n ((d.track i.chart).begin (d.nextRecord i) i.result) errored
  · rfl

theorem begunEvent_eq (k : d.Renumbered i.chart n e) :
    e.begunEvent i = (d.begunEvent i).later n := by
  unfold begunEvent
  rw [k.nextRecord_eq]
  rfl

end Renumbered

/-! ## What is done to the chart -/

/-- Beginning answers and tells the larger number, and what is refused fails with the same error on both. -/
theorem renumbered_begin (k : d.Renumbered i.chart n e) :
    (d.begin i).Renumbered i.chart n (·.later n) (e.begin i) := by
  have record := k.nextRecord_eq
  have left : (d.begin i).dashboard.tracks.get? i.chart = some (d.begunTrack i) := by
    rw [get?_begin_tracks, if_pos rfl]
  have right : (e.begin i).dashboard.tracks.get? i.chart = some ((d.begunTrack i).later n) := by
    rw [get?_begin_tracks, if_pos rfl, k.begunTrack_eq]
  have value : (e.begin i).value = (d.begin i).value.later n := by
    rw [begin_value, begin_value, record]
  cases refusal : i.refusal? with
  | none =>
    rw [begin_accepted refusal] at left value ⊢
    rw [begin_accepted refusal] at right value ⊢
    exact ⟨value, .of_known k.rest left right, rfl, congrArg ([·]) k.begunEvent_eq⟩
  | some fault =>
    have clock : d.clock = e.clock := k.rest.clock
    rw [begin_refused refusal] at left value ⊢
    rw [begin_refused refusal] at right value ⊢
    have rest := k.rest.signal (.failure fault.message none)
    refine ⟨value, .of_known rest left right, ?_, ?_⟩
    · rw [record, clock]
      rfl
    · rw [record, k.begunEvent_eq]
      rfl

/-- A callback with the larger number ends the attempt as the callback does. -/
theorem renumbered_complete (k : d.Renumbered c n e) (a : AttemptId) (x : Ending) :
    (d.complete c a x).Renumbered c n (·.later n) (e.complete c (a.later n) x) := by
  have settle := k.settle_eq a
  cases settled : (d.settle c a).1 with
  | error reason =>
    rw [settled] at settle
    rw [complete_dropped settled, complete_dropped settle]
    exact ⟨rfl, k, rfl, rfl⟩
  | ok r =>
    have clock : d.clock = e.clock := k.rest.clock
    have status : d.board.status? c = e.board.status? c := k.rest.status_eq
    obtain ⟨t, known, -, -, -⟩ := settle_eq_ok.1 settled
    rw [settled] at settle
    rw [complete_applied settled, complete_applied settle, status]
    have left : (d.closeTrack c x.phase).get? c = some (t.close x.phase) := by
      simp [get?_closeTrack, known]
    have right : (e.closeTrack c x.phase).get? c = some ((t.close x.phase).later n) := by
      simp [get?_closeTrack, k.tracks, known, t.close_later n (x.phase_later n)]
    refine ⟨rfl, .of_known ?_ left right, ?_, ?_⟩
    · split
      · exact k.rest.signal x
      · exact k.rest
    · rw [clock]
      rfl
    · exact congrArg ([·]) (x.event_later n c a _)

/-- Forgetting answers the same and retires the larger number. -/
theorem renumbered_forget (k : d.Renumbered c n e) :
    (d.forget c).Renumbered c n id (e.forget c) := by
  unfold forget
  rw [k.tracks]
  cases d.tracks.get? c with
  | none => exact ⟨rfl, k, rfl, rfl⟩
  | some t =>
    refine ⟨rfl, ⟨k.rest, ?_, ?_⟩, rfl, rfl⟩
    · simp
    · rw [track_of_unknown (by simp), track_of_unknown (by simp)]
      simp
      rfl

/-- Removing answers the same and retires the larger number. -/
theorem renumbered_remove (k : d.Renumbered c n e) :
    (d.remove c).Renumbered c n id (e.remove c) := by
  have forgotten := renumbered_forget k
  have seen : d.seen.contains c = e.seen.contains c := congrArg Option.isSome k.rest.seen
  rw [remove_eq, remove_eq]
  constructor
  · rw [forgotten.value, seen]
    rfl
  · exact { forgotten.dashboard with
      rest := { forgotten.dashboard.rest with seen := by simp [Dashboard.bare] } }
  · rfl
  · rfl

theorem renumbered_consider (k : d.Renumbered i.chart n e) :
    (d.consider i).Renumbered i.chart n (·.later n) (e.consider i) := by
  unfold consider
  rw [k.decision_eq, k.snapshot_eq]
  cases (e.decision? i).filter (!·.isRedraw) with
  | some decision => exact ⟨rfl, k, rfl, rfl⟩
  | none =>
    cases SkipReason.of? (e.board.snapshot i.chart) with
    | some reason => exact ⟨rfl, k, rfl, rfl⟩
    | none =>
      have begun := renumbered_begin k
      exact ⟨congrArg SubmitOutcome.started begun.value, begun.dashboard, begun.telemetry, begun.events⟩

/-- An input is treated alike whatever the numbers are. -/
theorem renumbered_submit (k : d.Renumbered i.chart n e) :
    (d.submit i).Renumbered i.chart n (·.later n) (e.submit i) := by
  have considered := renumbered_consider k
  constructor
  · exact considered.value
  · exact { considered.dashboard with
      rest := { considered.dashboard.rest with
        seen := by simp [Dashboard.bare, submit, k.snapshot_eq] } }
  · exact considered.telemetry
  · exact considered.events

end Dashboard

end Redraw
