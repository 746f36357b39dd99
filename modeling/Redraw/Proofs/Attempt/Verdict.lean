import Redraw.Proofs.Attempt.Consistency

/-!
# Callbacks are judged by history

What becomes of a callback depends on three things that have happened before: whether its chart has
left since the newest attempt began, whether a newer attempt has begun, and whether the attempt has
ended. A dashboard keeps none of the three, only a track and a number. `Course` says how the one is
read off the other, and every moment keeps it.
-/

namespace Redraw

/-- The chart was removed or forgotten after its most recent attempt began. -/
def Gone (c : ChartId) (h : History) : Prop := Since (·.Removes c) (fun m => (m.begun? c).isSome) h

/-- The attempt has reached its end. -/
def Settled (c : ChartId) (a : AttemptId) (h : History) : Prop := ∃ m ∈ h, m.Ends c a

/-- An attempt of the chart has begun after this one. -/
def NewerBegun (c : ChartId) (a : AttemptId) (h : History) : Prop :=
  ∃ older newer, begunFor c h = older ++ a :: newer ∧ newer ≠ []

/-- A callback is treated as the history asks. -/
structure Verdict (c : ChartId) (a : AttemptId) (h : History) (v : CallbackOutcome) : Prop where
  unknown_iff : v = .dropped .unknownChart ↔ Gone c h
  superseded_iff : ∀ latest, v = .dropped (.superseded latest) ↔
    ¬ Gone c h ∧ NewerBegun c a h ∧ (begunFor c h).getLast? = some latest
  newer : ∀ latest, v = .dropped (.superseded latest) → a.raw < latest.raw
  settled_iff : v = .dropped .alreadySettled ↔ ¬ Gone c h ∧ ¬ NewerBegun c a h ∧ Settled c a h
  applied_iff : v.isApplied = true ↔ ¬ Gone c h ∧ ¬ NewerBegun c a h ∧ ¬ Settled c a h
  once : v.isApplied = true →
    ∀ m ∈ h, ¬ (m.op.callback? = some (c, a) ∧ m.reply.answer.isApplied = true)

variable {c : ChartId} {a : AttemptId} {h : History} {m : Moment} {d : Dashboard}

theorem gone_snoc : Gone c (h ++ [m]) ↔ m.Removes c ∨ Gone c h ∧ m.begun? c = none := by
  unfold Gone
  rw [since_snoc, Option.not_isSome_iff_eq_none]

theorem settled_snoc : Settled c a (h ++ [m]) ↔ Settled c a h ∨ m.Ends c a := by
  unfold Settled
  constructor
  · rintro ⟨n, member, ended⟩
    rcases List.mem_append.1 member with old | new
    · exact .inl ⟨n, old, ended⟩
    · exact .inr (List.mem_singleton.1 new ▸ ended)
  · rintro (⟨n, old, ended⟩ | ended)
    · exact ⟨n, List.mem_append_left _ old, ended⟩
    · exact ⟨m, by simp, ended⟩

/-! ## Which attempts are newer -/

theorem getLast?_firstAttempts {n : Nat} (some : 0 < n) :
    (firstAttempts n).getLast? = .some (.nth n) := by
  obtain ⟨k, rfl⟩ : ∃ k, n = k + 1 := ⟨n - 1, by omega⟩
  rw [firstAttempts_succ, List.getLast?_concat]

/-- The attempts after the `k`th are those that began after it. -/
theorem newerBegun_iff {k n : Nat} (ids : begunFor c h = firstAttempts n) (fits : n < UInt64.size)
    (bound : k < n) : NewerBegun c (.nth (k + 1)) h ↔ k + 1 < n := by
  constructor
  · rintro ⟨older, newer, split, more⟩
    rw [ids] at split
    have length : n = older.length + (newer.length + 1) := by
      simpa [firstAttempts] using congrArg List.length split
    have place : (firstAttempts n)[older.length]? = some (.nth (k + 1)) := by
      rw [split]
      simp
    rw [getElem?_firstAttempts (by omega), Option.some.injEq] at place
    have := AttemptId.nth_inj (by omega) (by omega) place
    have := List.length_pos_iff.2 more
    omega
  · intro later
    have length : (firstAttempts n).length = n := by simp [firstAttempts]
    have here : (firstAttempts n)[k] = AttemptId.nth (k + 1) := by simp [firstAttempts]
    refine ⟨(firstAttempts n).take k, (firstAttempts n).drop (k + 1), ?_, ?_⟩
    · rw [ids, ← here, ← List.drop_eq_getElem_cons, List.take_append_drop]
    · rw [← List.length_pos_iff, List.length_drop]
      omega

/-! ## How the dashboard follows the history -/

/-- The track of a chart says whether the chart is gone and whether its newest attempt has ended. -/
structure Course (c : ChartId) (h : History) (d : Dashboard) : Prop where
  gone_iff : d.tracks.get? c = none ↔ Gone c h ∨ begunFor c h = []
  settled_iff : ∀ t, d.tracks.get? c = some t → (t.active = none ↔ Settled c t.latest h)
  settled_begun : ∀ a, Settled c a h → a ∈ begunFor c h

namespace Course

/-- A chart with a track is there. -/
theorem stays (k : Course c h d) {t : Track} (known : d.tracks.get? c = some t) : ¬ Gone c h := by
  intro gone
  rw [k.gone_iff.2 (.inl gone)] at known
  exact nomatch known

/-- A moment at which nothing begins and nothing that was not known ends keeps the course. -/
theorem keep (k : Course c h m.before) (begun : m.begun? c = none)
    (gone_iff : m.after.tracks.get? c = none ↔ m.Removes c ∨ m.before.tracks.get? c = none)
    (settled_iff : ∀ t, m.after.tracks.get? c = some t →
      (t.active = none ↔ Settled c t.latest h ∨ m.Ends c t.latest))
    (known : ∀ a, m.Ends c a → a ∈ begunFor c h) : Course c (h ++ [m]) m.after := by
  have same : begunFor c (h ++ [m]) = begunFor c h := begunFor_rest begun
  constructor
  · rw [gone_iff, k.gone_iff, gone_snoc, same, or_assoc]
    simp [begun]
  · intro t after
    rw [settled_iff t after, settled_snoc]
  · intro b settled
    rw [same]
    rcases settled_snoc.1 settled with old | new
    · exact k.settled_begun b old
    · exact known b new

/-- Every moment keeps the course while the numbers of the attempts are all different: an attempt that
begins is not one that has ended before. -/
theorem step (k : Course c h m.before) (n : Numbering c h m.before)
    (few : (begunFor c (h ++ [m])).length < UInt64.size) : Course c (h ++ [m]) m.after := by
  cases m.move c with
  | begins i _ chart begun ends stays track _ =>
    have number := n.next_eq chart
    have more := n.begunFor_next chart begun
    have new : ¬ Settled c (.nth ((begunFor c h).length + 1)) h := by
      intro settled
      obtain ⟨j, bound, same⟩ := n.mem_iff.1 (k.settled_begun _ settled)
      rw [more, List.length_append, List.length_singleton] at few
      have := AttemptId.nth_inj few (by omega) same
      omega
    constructor
    · rw [track, gone_snoc, more]
      simp [stays, begun]
    · intro t after
      rw [track, Option.some.injEq] at after
      subst after
      have latest : (m.before.begunTrack i).latest = .nth ((begunFor c h).length + 1) := by
        rw [← number]
        exact Dashboard.latest_begunTrack m.before i
      rw [Dashboard.active_begunTrack, settled_snoc, latest, ends, number]
      simp [new]
    · intro b settled
      rw [more]
      rcases settled_snoc.1 settled with old | ended
      · exact List.mem_append_left _ (k.settled_begun b old)
      · rw [((ends b).1 ended).1, number]
        simp
  | settles t r e known _ begun ends stays track _ =>
    have newest : t.latest ∈ begunFor c h := n.latest_mem known
    refine k.keep begun ?_ ?_ ?_
    · simp [track, known, stays]
    · intro s after
      rw [track, Option.some.injEq] at after
      subst after
      exact ⟨fun _ => .inr ((ends _).2 rfl), fun _ => rfl⟩
    · intro b ended
      rw [(ends b).1 ended]
      exact newest
  | forgets t _ begun ends leaves track _ =>
    refine k.keep begun ?_ ?_ (fun b ended => absurd ended (ends b))
    · simp [track, leaves]
    · intro s after
      rw [track] at after
      cases after
  | rests begun ends absent track _ =>
    refine k.keep begun ?_ ?_ (fun b ended => absurd ended (ends b))
    · rw [track]
      exact ⟨.inr, fun h => h.elim absent id⟩
    · intro t after
      rw [track] at after
      rw [k.settled_iff t after]
      simp [ends]

variable {registry : Registry} {namer : ClassNamer} {clock : Clock} {sink : TelemetrySink}
  {hooks : Hooks}

/-- The course of every chart is kept throughout a run that begins fewer attempts of it than there are
numbers. -/
theorem run (ops : List Operation)
    (few : (begunFor c ((Dashboard.new registry namer clock sink hooks).history ops)).length
      < UInt64.size) :
    Course c ((Dashboard.new registry namer clock sink hooks).history ops)
      ((Dashboard.new registry namer clock sink hooks).after ops) := by
  refine (Dashboard.run_induction
    (I := fun h d => Numbering c h d ∧ ((begunFor c h).length < UInt64.size → Course c h d))
    ⟨Numbering.fresh, fun _ => ⟨?_, ?_, ?_⟩⟩ ?_ ops).2 few
  · exact ⟨fun _ => .inr rfl, fun _ => rfl⟩
  · intro t known
    simp [Dashboard.new] at known
  · rintro b ⟨m, member, -⟩
    simp at member
  · rintro h e op ⟨n, course⟩
    refine ⟨n.step (m := ⟨e, op⟩), fun few => (course ?_).step (m := ⟨e, op⟩) n few⟩
    rw [begunFor_snoc, List.length_append] at few
    omega

end Course

/-! ## The verdict -/

section Judged

variable {t : Track} (k : Course c h d) (n : Numbering c h d)
  (few : (begunFor c h).length < UInt64.size)

include n few in
/-- Nothing has begun after the newest attempt of a track. -/
theorem not_newerBegun_latest (known : d.tracks.get? c = some t) : ¬ NewerBegun c t.latest h := by
  have some := n.length_pos known
  have last : (begunFor c h).length - 1 + 1 = (begunFor c h).length := by omega
  rw [n.latest_eq known, ← last, newerBegun_iff n.ids few (by omega)]
  omega

include k in
theorem verdict_of_gone (begun : a ∈ begunFor c h) (unknown : d.tracks.get? c = none) :
    Verdict c a h (.dropped .unknownChart) := by
  have gone : Gone c h := (k.gone_iff.1 unknown).resolve_right (List.ne_nil_of_mem begun)
  constructor
  · simp [gone]
  · simp [gone]
  · simp
  · simp [gone]
  · simp [gone, CallbackOutcome.isApplied]
  · simp [CallbackOutcome.isApplied]

include k n few in
theorem verdict_of_older (begun : a ∈ begunFor c h) (known : d.tracks.get? c = some t)
    (older : a ≠ t.latest) : Verdict c a h (.dropped (.superseded t.latest)) := by
  have stays : ¬ Gone c h := k.stays known
  have latest := n.latest_eq known
  obtain ⟨j, bound, rfl⟩ := n.mem_iff.1 begun
  have later : j + 1 < (begunFor c h).length := by
    refine Nat.lt_of_le_of_ne bound fun last => older ?_
    rw [latest, ← last]
  have newer : NewerBegun c (.nth (j + 1)) h := (newerBegun_iff n.ids few bound).2 later
  have last : (begunFor c h).getLast? = some t.latest := by
    rw [n.ids, getLast?_firstAttempts (n.length_pos known), latest]
  constructor
  · simp [stays]
  · simp [stays, newer, last]
  · intro other same
    obtain rfl : t.latest = other := by simpa using same
    rw [latest, UInt64.lt_iff_toNat_lt, AttemptId.toNat_nth few, AttemptId.toNat_nth (by omega)]
    exact later
  · simp [newer]
  · simp [newer, CallbackOutcome.isApplied]
  · simp [CallbackOutcome.isApplied]

include k n few in
theorem verdict_of_settled (known : d.tracks.get? c = some t) (ended : t.active = none) :
    Verdict c t.latest h (.dropped .alreadySettled) := by
  have stays : ¬ Gone c h := k.stays known
  have newest := not_newerBegun_latest n few known
  have settled : Settled c t.latest h := (k.settled_iff t known).1 ended
  constructor
  · simp [stays]
  · simp [newest]
  · simp
  · simp [stays, newest, settled]
  · simp [settled, CallbackOutcome.isApplied]
  · simp [CallbackOutcome.isApplied]

include k n few in
theorem verdict_of_outstanding {r : AttemptRecord} (known : d.tracks.get? c = some t)
    (active : t.active = some r) (signaled emitted : Bool) :
    Verdict c t.latest h (.applied signaled emitted) := by
  have stays : ¬ Gone c h := k.stays known
  have newest := not_newerBegun_latest n few known
  have unsettled : ¬ Settled c t.latest h := by
    rw [← k.settled_iff t known, active]
    exact fun none => nomatch none
  constructor
  · simp [stays]
  · simp [newest]
  · simp
  · simp [unsettled]
  · simp [stays, newest, unsettled, CallbackOutcome.isApplied]
  · rintro - m member ⟨called, applied⟩
    exact unsettled ⟨m, member, .inl ⟨called, applied⟩⟩

include k n few in
/-- A callback for an attempt that has begun is treated as the history asks. -/
theorem verdict_of_complete (consistent : d.Consistent) (begun : a ∈ begunFor c h) (e : Ending) :
    Verdict c a h (d.complete c a e).value := by
  cases known : d.tracks.get? c with
  | none =>
    have late : (d.settle c a).1 = .error .unknownChart := by rw [Dashboard.settle_of_unknown known]
    rw [Dashboard.complete_dropped late]
    exact verdict_of_gone k begun known
  | some t =>
    by_cases newest : a = t.latest
    · subst newest
      cases active : t.active with
      | none =>
        have late : (d.settle c t.latest).1 = .error .alreadySettled := by
          rw [Dashboard.settle_of_known known, Track.settle_ended (by simp [active])]
        rw [Dashboard.complete_dropped late]
        exact verdict_of_settled k n few known active
      | some r =>
        have number := ((consistent c t known).attempt_eq active).1
        have settled : (d.settle c t.latest).1 = .ok r :=
          Dashboard.settle_eq_ok.2 ⟨t, known, rfl, active, number⟩
        rw [Dashboard.complete_applied settled]
        exact verdict_of_outstanding k n few known active _ _
    · have late : (d.settle c a).1 = .error (.superseded t.latest) := by
        rw [Dashboard.settle_of_known known, Track.settle_superseded newest]
      rw [Dashboard.complete_dropped late]
      exact verdict_of_older k n few begun known newest

end Judged

/-- A callback is answered by the outcome of completing the attempt that it is about. -/
theorem answer_of_callback (d : Dashboard) {op : Operation} (called : op.callback? = some (c, a)) :
    ∃ e, (d.step op).2.answer = .callback (d.complete c a e).value := by
  obtain ⟨e, performed⟩ := d.perform_of_callback called
  exact ⟨e, congrArg Outcome.value performed⟩

/-- Take any run that begins fewer attempts of a chart than there are numbers, and any attempt of the
chart that it begins. A callback for this attempt is answered next as the history asks: it is applied
unless the chart is gone, a newer attempt has begun or the attempt has ended, and dropped for the first
of these that holds. -/
theorem callback_judged_by_history (registry : Registry) (namer : ClassNamer) (clock : Clock)
    (sink : TelemetrySink) (hooks : Hooks) (ops : List Operation) (op : Operation) (c : ChartId)
    (a : AttemptId) (called : op.callback? = some (c, a))
    (few : (begunFor c ((Dashboard.new registry namer clock sink hooks).history ops)).length
      < UInt64.size)
    (begun : a ∈ begunFor c ((Dashboard.new registry namer clock sink hooks).history ops)) :
    ∃ v, (((Dashboard.new registry namer clock sink hooks).after ops).step op).2.answer =
        .callback v ∧
      Verdict c a ((Dashboard.new registry namer clock sink hooks).history ops) v := by
  obtain ⟨e, answer⟩ :=
    answer_of_callback ((Dashboard.new registry namer clock sink hooks).after ops) called
  refine ⟨_, answer, ?_⟩
  exact verdict_of_complete (Course.run ops few) (Numbering.run ops) few
    (Dashboard.consistent_after ops) begun e

/-- A callback for the first attempt of a chart that was removed and is drawn again. -/
theorem callback_judged_after_removal :
    let ops : List Operation := [.begin (.plain ⟨7⟩), .remove ⟨7⟩, .begin (.plain ⟨7⟩)]
    let h := Dashboard.blank.history ops
    (begunFor ⟨7⟩ h).length < UInt64.size ∧ ⟨1⟩ ∈ begunFor ⟨7⟩ h ∧
      ∃ v, ((Dashboard.blank.after ops).step (.complete ⟨7⟩ ⟨1⟩ .success)).2.answer = .callback v ∧
        Verdict ⟨7⟩ ⟨1⟩ h v := by
  intro ops h
  have few : (begunFor ⟨7⟩ h).length < UInt64.size := by decide
  have begun : ⟨1⟩ ∈ begunFor ⟨7⟩ h := by decide
  exact ⟨few, begun, callback_judged_by_history ∅ .default { epoch := 0 } .recording {} ops
    (.complete ⟨7⟩ ⟨1⟩ .success) ⟨7⟩ ⟨1⟩ rfl few begun⟩

end Redraw
