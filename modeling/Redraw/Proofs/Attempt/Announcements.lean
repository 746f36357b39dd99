import Redraw.Proofs.Attempt.Completions

/-!
# What observers are told

Observers are told of an attempt when it begins and when it is completed, of a callback that is dropped
and of a redraw that is withheld. `Moment.Announcement` lists what a moment may tell, next to what the
answer and the completion of the moment say. An attempt that the engine refuses is the only one of which
a moment tells twice.
-/

namespace Redraw

namespace LifecycleEvent

/-- The event tells that an attempt has begun. -/
def isBegun : LifecycleEvent → Bool
  | attemptBegun _ _ _ => true
  | _ => false

/-- The event tells that an attempt has rendered its chart. -/
def isRendered : LifecycleEvent → Bool
  | rendered _ _ _ => true
  | _ => false

/-- The event tells that an attempt has failed. -/
def isFailed : LifecycleEvent → Bool
  | failed _ _ => true
  | _ => false

/-- The event tells that a callback was dropped. -/
def isDropped : LifecycleEvent → Bool
  | callbackDropped _ _ _ => true
  | _ => false

end LifecycleEvent

/-- The answer to a callback that is dropped. -/
def Answer.isDropped : Answer → Bool
  | .callback o => !o.isApplied
  | _ => false

/-- What observers are told in a history. -/
def told (h : History) : List LifecycleEvent := h.flatMap (·.reply.events)

/-- What observers are told of a chart in a history. -/
def toldOf (c : ChartId) (h : History) : List LifecycleEvent := (told h).filter (·.chart = c)

namespace Moment

/-- What a moment tells observers, by what comes of its operation. -/
inductive Announcement (m : Moment) : Prop where
  | begins (r : AttemptRecord) (begun : m.reply.answer.begun? = some r)
      (completion : m.completion? = none)
      (events : m.reply.events = [.attemptBegun r.chart r.attempt r.resultChanged])
  | refuses (r : AttemptRecord) (error : String) (begun : m.reply.answer.begun? = some r)
      (completion : m.completion? = some ⟨r.chart, r.attempt, .failure error none⟩)
      (events : m.reply.events =
        [.attemptBegun r.chart r.attempt r.resultChanged, .failed r.chart r.attempt])
  | completes (x : Completion) (signaled emitted : Bool)
      (answer : m.reply.answer = .callback (.applied signaled emitted))
      (completion : m.completion? = some x)
      (events : m.reply.events = [x.ending.event x.chart x.attempt signaled])
  | drops (c : ChartId) (a : AttemptId) (reason : DropReason)
      (called : m.op.callback? = some (c, a))
      (answer : m.reply.answer = .callback (.dropped reason)) (completion : m.completion? = none)
      (events : m.reply.events = [.callbackDropped c a reason])
  | withholds (c : ChartId) (decision : RedrawDecision)
      (answer : m.reply.answer = .submitted (.withheld decision)) (completion : m.completion? = none)
      (events : m.reply.events = [.redrawWithheld c decision])
  | nothing (begun : m.reply.answer.begun? = none) (unapplied : m.reply.answer.isApplied = false)
      (heeded : m.reply.answer.isDropped = false) (completion : m.completion? = none)
      (events : m.reply.events = [])

variable {m : Moment}

/-- What begins is not the answer to a callback. -/
theorem not_callback_of_begun {r : AttemptRecord} (begun : m.reply.answer.begun? = some r) :
    m.reply.answer.isApplied = false ∧ m.reply.answer.isDropped = false := by
  cases answer : m.reply.answer with
  | callback o =>
    rw [answer] at begun
    exact nomatch begun
  | _ => exact ⟨rfl, rfl⟩

/-- A beginning is told, and right after it the failure of what the engine refuses. -/
theorem announcement_of_begin {i : RenderInput} (input : m.op.input? = some i)
    (begun : m.reply.answer.begun? = some (m.before.begin i).value)
    (events : m.reply.events = (m.before.begin i).emitted.events) : m.Announcement := by
  have completion := completion?_of_begun input begun (not_callback_of_begun begun).1
  rw [Dashboard.begin_value] at begun completion
  cases refusal : i.refusal? with
  | none =>
    rw [Dashboard.begin_accepted refusal] at events
    rw [refusal] at completion
    exact .begins _ begun completion events
  | some fault =>
    rw [Dashboard.begin_refused refusal] at events
    rw [refusal] at completion
    exact .refuses _ fault.message begun completion events

/-- A callback that is applied tells of the ending, and one that is dropped tells why. -/
theorem announcement_of_complete {x : Completion} (asked : m.op.completion? = some x)
    (called : m.op.callback? = some (x.chart, x.attempt))
    (answer : m.reply.answer = .callback (m.before.complete x.chart x.attempt x.ending).value)
    (events : m.reply.events = (m.before.complete x.chart x.attempt x.ending).emitted.events) :
    m.Announcement := by
  cases settled : (m.before.settle x.chart x.attempt).1 with
  | error reason =>
    rw [Dashboard.complete_dropped settled] at answer events
    have completion : m.completion? = none :=
      completion?_of_idle (by rw [answer]; rfl) (by rw [answer]; rfl)
    exact .drops x.chart x.attempt reason called answer completion events
  | ok r =>
    rw [Dashboard.complete_applied settled] at answer events
    have completion : m.completion? = some x := by
      rw [completion?, answer, asked]
      rfl
    exact .completes x _ _ answer completion events

/-- Where nothing begins, no callback arrives and nothing is told. -/
theorem announcement_of_silence (unapplied : m.reply.answer.isApplied = false)
    (heeded : m.reply.answer.isDropped = false) (begun : m.reply.answer.begun? = none)
    (events : m.reply.events = []) : m.Announcement :=
  .nothing begun unapplied heeded (completion?_of_idle unapplied begun) events

theorem announcement_of_outcome {d e : Dashboard} {op : Operation} {answer : Answer}
    (outcome : d.perform op = { value := answer, dashboard := e })
    (plain : answer = .done ∨ ∃ fault, answer = .refusal fault) : Announcement ⟨d, op⟩ := by
  have reply : (⟨d, op⟩ : Moment).reply.answer = answer := congrArg Outcome.value outcome
  have events : (⟨d, op⟩ : Moment).reply.events = [] := congrArg (·.emitted.events) outcome
  rcases plain with rfl | ⟨fault, rfl⟩ <;>
    exact announcement_of_silence (by rw [reply]; rfl) (by rw [reply]; rfl) (by rw [reply]; rfl) events

/-- A submitted input tells of the beginning or of being withheld. One that is skipped tells nothing. -/
theorem announcement_of_submit (d : Dashboard) (i : RenderInput) :
    Announcement ⟨d, .submit i⟩ := by
  have answer : (⟨d, .submit i⟩ : Moment).reply.answer = .submitted (d.submit i).value := rfl
  have events : (⟨d, .submit i⟩ : Moment).reply.events = (d.submit i).emitted.events := rfl
  cases d.submission i with
  | withheld decision _ _ outcome =>
    rw [outcome] at answer events
    have completion : (⟨d, .submit i⟩ : Moment).completion? = none :=
      completion?_of_idle (by rw [answer]; rfl) (by rw [answer]; rfl)
    exact .withholds i.chart decision answer completion events
  | skipped reason _ _ outcome =>
    rw [outcome] at answer events
    exact announcement_of_silence (by rw [answer]; rfl) (by rw [answer]; rfl) (by rw [answer]; rfl)
      events
  | started _ _ outcome =>
    rw [outcome] at answer events
    exact announcement_of_begin (i := i) rfl (by rw [answer]; rfl) events

/-- Every moment tells observers something of the list. -/
theorem announcement (m : Moment) : m.Announcement := by
  obtain ⟨d, op⟩ := m
  cases op with
  | submit i => exact announcement_of_submit d i
  | begin i => exact announcement_of_begin (i := i) rfl rfl rfl
  | complete c a e => exact announcement_of_complete (x := ⟨c, a, e⟩) rfl rfl rfl rfl
  | completeRecord r e =>
    exact announcement_of_complete (x := ⟨r.chart, r.attempt, e⟩) rfl rfl rfl rfl
  | remove c =>
    obtain ⟨_, _, outcome⟩ := d.remove_outcome c
    exact announcement_of_silence rfl rfl rfl (congrArg (·.emitted.events) outcome)
  | forget c =>
    obtain ⟨_, _, outcome⟩ := d.forget_outcome c
    exact announcement_of_silence rfl rfl rfl (congrArg (·.emitted.events) outcome)
  | addObserver id =>
    obtain ⟨_, _, plain, outcome⟩ := d.addObserver_outcome id
    exact announcement_of_outcome outcome plain
  | addStrategy v s =>
    obtain ⟨_, _, plain, outcome⟩ := d.addStrategy_outcome v s
    exact announcement_of_outcome outcome plain
  | _ => exact announcement_of_silence rfl rfl rfl rfl

end Moment

end Redraw
