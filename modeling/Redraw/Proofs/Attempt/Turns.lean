import Redraw.Proofs.Attempt.Announcements
import Redraw.Proofs.Attempt.Consistency

/-!
# The turns of a chart

What observers are told of the attempts of a chart, with the removals of the chart in between, is a log of
turns. In this log an end comes right after the beginning of the same attempt. `Moment.Turning` says how
the turns of a moment go with the attempt that is outstanding before it and after it.
-/

namespace Redraw

/-- A turn in what becomes of the attempts of a chart. -/
inductive Turn where
  | begun (a : AttemptId)
  | ended (a : AttemptId)
  | removed
deriving DecidableEq

namespace Turn

/-- An attempt begins. -/
def isBegun : Turn → Bool
  | begun _ => true
  | _ => false

/-- An attempt reaches its end. -/
def isEnded : Turn → Bool
  | ended _ => true
  | _ => false

end Turn

/-- The turn that an event tells of. -/
def LifecycleEvent.turn? : LifecycleEvent → Option Turn
  | attemptBegun _ a _ => some (.begun a)
  | rendered _ a _ | failed _ a => some (.ended a)
  | redrawWithheld _ _ | callbackDropped _ _ _ => none

namespace Moment

/-- The turns of a chart at a moment: those that observers are told of, and its removal. -/
def turns (m : Moment) (c : ChartId) : List Turn :=
  (m.reply.events.filter (·.chart = c)).filterMap (·.turn?) ++
    if m.op.removed? = some c then [.removed] else []

/-- A newer attempt of the chart begins at the moment while one is outstanding. -/
def supersedes (m : Moment) (c : ChartId) : Bool :=
  (m.begun? c).isSome && (m.before.active? c).isSome

/-- The chart is removed or forgotten at the moment while an attempt is outstanding. -/
def abandons (m : Moment) (c : ChartId) : Bool :=
  m.op.removed? = some c && (m.before.active? c).isSome

/-- The attempt of a chart that reaches its end at the moment. -/
def ended? (m : Moment) (c : ChartId) : Option AttemptId :=
  (m.completion?.filter (·.chart = c)).map (·.attempt)

end Moment

/-- The turns of a chart in a history, the oldest first. -/
def turnsOf (c : ChartId) (h : History) : List Turn := h.flatMap (·.turns c)

/-- An attempt of the chart is outstanding. -/
def Phase.isAttempting : Phase → Bool
  | attempting _ => true
  | _ => false

/-- An end comes right after the beginning of the same attempt. -/
def Orderly (log : List Turn) : Prop :=
  ∀ earlier a later, log = earlier ++ .ended a :: later → earlier.getLast? = some (.begun a)

/-! ## The turns of one moment -/

/-- A callback is about the completion that it asks for. -/
theorem Operation.callback?_eq (op : Operation) :
    op.callback? = op.completion?.map fun x => (x.chart, x.attempt) := by
  cases op <;> rfl

namespace Moment

variable {m : Moment} {c : ChartId}

/-- No attempt begins where a callback is applied. -/
theorem begun?_of_applied (applied : m.reply.answer.isApplied = true) : m.begun? c = none := by
  refine begun?_of_none ?_
  cases begun : m.reply.answer.begun? with
  | none => rfl
  | some r =>
    rw [(not_callback_of_begun begun).1] at applied
    exact nomatch applied

theorem ended?_of_completion {x : Completion} (completion : m.completion? = some x) :
    m.ended? c = if x.chart = c then some x.attempt else none := by
  unfold ended?
  rw [completion]
  by_cases same : x.chart = c <;> simp [Option.filter, same]

theorem ended?_of_none (completion : m.completion? = none) : m.ended? c = none := by
  unfold ended?
  rw [completion]
  rfl

/-- Observers are told of a chart what begins, and then what ends. -/
theorem told_turns (m : Moment) (c : ChartId) :
    (m.reply.events.filter (·.chart = c)).filterMap (·.turn?) =
      (m.begun? c).toList.map .begun ++ (m.ended? c).toList.map .ended := by
  cases m.announcement with
  | begins r begun completion events =>
    rw [events, begun?_of_answer begun, ended?_of_none completion]
    by_cases same : r.chart = c <;> simp [LifecycleEvent.turn?, LifecycleEvent.chart, same]
  | refuses r error begun completion events =>
    rw [events, begun?_of_answer begun, ended?_of_completion completion]
    by_cases same : r.chart = c <;> simp [LifecycleEvent.turn?, LifecycleEvent.chart, same]
  | completes x signaled emitted answer completion events =>
    have begun : m.begun? c = none := begun?_of_none (by rw [answer]; rfl)
    obtain ⟨k, a, e⟩ := x
    rw [events, begun, ended?_of_completion completion]
    by_cases same : k = c <;> cases e <;>
      simp [Ending.event, LifecycleEvent.turn?, LifecycleEvent.chart, same]
  | drops k a reason _ answer completion events =>
    have begun : m.begun? c = none := begun?_of_none (by rw [answer]; rfl)
    rw [events, begun, ended?_of_none completion]
    simp [LifecycleEvent.turn?]
  | withholds k decision answer completion events =>
    have begun : m.begun? c = none := begun?_of_none (by rw [answer]; rfl)
    rw [events, begun, ended?_of_none completion]
    simp [LifecycleEvent.turn?]
  | nothing begun _ _ completion events =>
    rw [events, begun?_of_none begun, ended?_of_none completion]
    rfl

/-- An attempt reaches its end at a moment by being completed. -/
theorem ended?_eq_some {a : AttemptId} : m.ended? c = some a ↔ m.Ends c a := by
  unfold ended? completion? Ends
  cases applied : m.reply.answer.isApplied with
  | true =>
    rw [begun?_of_applied applied, m.op.callback?_eq]
    cases m.op.completion? with
    | none => simp
    | some x => simp [Option.filter_some]
  | false =>
    cases begun : m.reply.answer.begun? with
    | none =>
      rw [refused?_of_none begun, begun?_of_none begun]
      simp
    | some r =>
      cases input : m.op.input? with
      | none =>
        have accepted : m.refused? = none := by
          unfold refused?
          rw [begun, input]
          rfl
        simp [accepted, IsRefused, input]
      | some i =>
        rw [refused?_of_begun input begun, begun?_of_answer begun, isRefused_iff input]
        cases i.refusal? <;> by_cases same : r.chart = c <;> simp [same]

theorem ended?_eq_none (quiet : ∀ a, ¬ m.Ends c a) : m.ended? c = none := by
  rw [Option.eq_none_iff_forall_ne_some]
  exact fun a ended => quiet a (ended?_eq_some.1 ended)

/-- How the turns of a chart at a moment go with the attempt of the chart that is outstanding before it and
after it. -/
inductive Turning (m : Moment) (c : ChartId) : Prop where
  | begins (r : AttemptRecord) (begun : m.begun? c = some r.attempt) (stays : m.op.removed? ≠ some c)
      (turns : m.turns c = [.begun r.attempt]) (active : m.after.active? c = some r)
  | refuses (a : AttemptId) (begun : m.begun? c = some a) (stays : m.op.removed? ≠ some c)
      (turns : m.turns c = [.begun a, .ended a]) (active : m.after.active? c = none)
  | ends (r : AttemptRecord) (outstanding : m.before.active? c = some r) (begun : m.begun? c = none)
      (stays : m.op.removed? ≠ some c) (turns : m.turns c = [.ended r.attempt])
      (active : m.after.active? c = none)
  | leaves (begun : m.begun? c = none) (removed : m.op.removed? = some c)
      (turns : m.turns c = [.removed]) (active : m.after.active? c = none)
  | rests (begun : m.begun? c = none) (stays : m.op.removed? ≠ some c) (turns : m.turns c = [])
      (active : m.after.active? c = m.before.active? c)

theorem turning_of_begin {i : RenderInput}
    (turns : m.turns c = (m.begun? c).toList.map .begun ++ (m.ended? c).toList.map .ended)
    (begun : m.begun? c = some (m.before.nextRecord i).attempt)
    (ends : ∀ a, m.Ends c a ↔ a = (m.before.nextRecord i).attempt ∧ i.refusal?.isSome)
    (stays : m.op.removed? ≠ some c)
    (track : m.after.tracks.get? c = some (m.before.begunTrack i)) : m.Turning c := by
  have active : m.after.active? c = (m.before.begunTrack i).active := by
    unfold Dashboard.active?
    rw [track, Option.bind_some]
  cases refused : i.refusal?.isSome with
  | true =>
    have ended : m.ended? c = some (m.before.nextRecord i).attempt :=
      ended?_eq_some.2 ((ends _).2 ⟨rfl, refused⟩)
    rw [begun, ended] at turns
    exact .refuses _ begun stays turns (active.trans ((m.before.active_begunTrack i).2 refused))
  | false =>
    have ended : m.ended? c = none :=
      ended?_eq_none fun a ended => absurd ((ends a).1 ended).2 (by simp [refused])
    rw [begun, ended] at turns
    refine .begins (m.before.nextRecord i) begun stays turns (active.trans ?_)
    simp [Dashboard.begunTrack, refused, Track.begin]

/-- The turns of a moment: what begins, what ends, and the removal. -/
theorem turns_eq (m : Moment) (c : ChartId) :
    m.turns c = (m.begun? c).toList.map .begun ++ (m.ended? c).toList.map .ended ++
      if m.op.removed? = some c then [.removed] else [] := by
  unfold turns
  rw [told_turns]

/-- Every moment is a turning of every chart. -/
theorem turning (consistent : m.before.Consistent) (c : ChartId) : m.Turning c := by
  have turns := m.turns_eq c
  cases m.move c with
  | begins i input chart begun ends stays track _ =>
    have stays : m.op.removed? ≠ some c := stays
    rw [if_neg stays, List.append_nil] at turns
    exact turning_of_begin turns begun ends stays track
  | settles t r e known active begun ends stays track _ =>
    have stays : m.op.removed? ≠ some c := stays
    have outstanding : m.before.active? c = some r := by
      unfold Dashboard.active?
      rw [known, Option.bind_some, active]
    have newest : r.attempt = t.latest := ((consistent c t known).attempt_eq active).1
    have ended : m.ended? c = some r.attempt := ended?_eq_some.2 ((ends _).2 newest)
    rw [if_neg stays, begun, ended] at turns
    refine .ends r outstanding begun stays turns ?_
    unfold Dashboard.active?
    rw [track]
    rfl
  | forgets t known begun ends leaves track _ =>
    have removed : m.op.removed? = some c := leaves
    rw [if_pos removed, begun, ended?_eq_none ends] at turns
    refine .leaves begun removed turns ?_
    unfold Dashboard.active?
    rw [track]
    rfl
  | rests begun ends absent track _ =>
    have active : m.after.active? c = m.before.active? c := by
      unfold Dashboard.active?
      rw [track]
    rw [begun, ended?_eq_none ends] at turns
    by_cases removed : m.op.removed? = some c
    · rw [if_pos removed] at turns
      refine .leaves begun removed turns ?_
      unfold Dashboard.active?
      rw [track, absent removed]
      rfl
    · rw [if_neg removed] at turns
      exact .rests begun removed turns active

/-- What a moment adds to either side of the account of a chart. -/
theorem balance (consistent : m.before.Consistent) (c : ChartId) :
    (if (m.before.active? c).isSome then 1 else 0) + (m.turns c).countP (·.isBegun) =
      (m.turns c).countP (·.isEnded) + (if m.supersedes c then 1 else 0) +
        (if m.abandons c then 1 else 0) + if (m.after.active? c).isSome then 1 else 0 := by
  unfold supersedes abandons
  cases m.turning consistent c with
  | begins r begun stays turns active =>
    rw [turns, active]
    simp [begun, stays, Turn.isBegun, Turn.isEnded]
  | refuses a begun stays turns active =>
    rw [turns, active]
    simp [begun, stays, Turn.isBegun, Turn.isEnded]
    omega
  | ends r outstanding begun stays turns active =>
    rw [turns, active, outstanding]
    simp [begun, stays, Turn.isBegun, Turn.isEnded]
  | leaves begun removed turns active =>
    rw [turns, active]
    simp [begun, removed, Turn.isBegun, Turn.isEnded]
  | rests begun stays turns active =>
    rw [turns, active]
    simp [begun, stays]

end Moment

/-! ## The log of turns -/

section Log

variable {log : List Turn} {t : Turn} {a : AttemptId}

theorem orderly_nil : Orderly [] := by
  intro earlier a later split
  simp at split

/-- A turn may be added to a log unless it is an end that does not follow its beginning. -/
theorem Orderly.snoc (orderly : Orderly log)
    (follows : ∀ a, t = .ended a → log.getLast? = some (.begun a)) : Orderly (log ++ [t]) := by
  intro earlier a later split
  rcases List.eq_nil_or_concat later with rfl | ⟨later, last, rfl⟩
  · obtain ⟨rfl, rfl⟩ : log = earlier ∧ t = .ended a := by simpa using split
    exact follows a rfl
  · have split : log ++ [t] = (earlier ++ .ended a :: later) ++ [last] := by simpa using split
    obtain ⟨same, -⟩ := List.append_inj' split rfl
    exact orderly earlier a later same

/-- An orderly log was orderly before its newest turn. -/
theorem Orderly.of_snoc (orderly : Orderly (log ++ [t])) : Orderly log := by
  intro earlier a later split
  exact orderly earlier a (later ++ [t]) (by simp [split])

/-- In an orderly log an attempt does not end more often than it begins, and less often while its beginning
is the last turn. -/
theorem Orderly.count_ended (orderly : Orderly log) (a : AttemptId) :
    log.count (.ended a) + (if log.getLast? = some (.begun a) then 1 else 0) ≤ log.count (.begun a) := by
  induction log using List.reverseRecOn with
  | nil => simp
  | append_singleton log t ih =>
    have before := ih orderly.of_snoc
    rw [List.count_append, List.count_append, List.getLast?_concat]
    cases t with
    | begun b =>
      by_cases same : b = a <;> simp [same] <;> omega
    | ended b =>
      have follows : log.getLast? = some (.begun b) := orderly log b [] rfl
      by_cases same : b = a
      · subst same
        rw [if_pos follows] at before
        simp
        omega
      · simp [same]
        omega
    | removed =>
      simp
      omega

end Log

end Redraw
