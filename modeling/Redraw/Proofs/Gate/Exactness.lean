import Redraw.Proofs.Gate.Changes
import Redraw.Proofs.History
import Redraw.Proofs.Json.Agreement

/-!
# Exactly what the gate decides

Each of the four decisions is taken under one condition on the registry, the two inputs and the status of the
second, and the topics that come with a change are exactly those in which the second input asks for a redraw.
To ask for one is to differ in something that is tracked, or to set the force flag. So where the gate has found
two inputs unchanged, a third one that differs from the second in a single tracked aspect is a change of that
single topic.
-/

namespace Redraw

/-! ## What a decision depends on -/

/-- The type is registered with a strategy that always redraws. -/
def Registry.AlwaysRedraws (r : Registry) (v : VizType) : Prop :=
  ∃ s, r.get? v = some s ∧ s.alwaysRedraw = true

/-- What keeps the results of an input from being displayed. -/
inductive SeenInput.Unready (s : SeenInput) : Prop where
  | missing (absent : s.input.result = none)
  | failed (q : Payload QueryResult) (result : s.input.result = some q)
      (error : q.content.error ≠ none)
  | undisplayable (unsuccessful : s.status.status ≠ some .success)
      (unrendered : s.status.status ≠ some .rendered)
  | covered (overlay : s.status.overlay = true)

/-- The inputs agree in what a topic is about: payloads by their identities, color schemes as values, where no
color scheme agrees with no value, and everything else as it stands. -/
def RenderInput.AgreesIn (i j : RenderInput) : RedrawTopic → Prop
  | .queryResult => i.result.map (·.identity) = j.result.map (·.identity)
  | .annotations => i.annotations.map (·.identity) = j.annotations.map (·.identity)
  | .width => i.viewport.width = j.viewport.width
  | .height => i.viewport.height = j.viewport.height
  | .forceRender => i.forceRender = j.forceRender
  | .colorScheme => Option.Rel Value.Equal i.form.colorScheme? j.form.colorScheme?
  | .cacheBuster => i.cacheBuster = j.cacheBuster

/-- The second of two inputs asks for a redraw in the topic: it sets the force flag, and in any other topic it
does not agree with the first. -/
def RenderInput.AsksIn (previous next : RenderInput) : RedrawTopic → Prop
  | .forceRender => next.forceRender = true
  | t => ¬ previous.AgreesIn next t

/-- The set consists of the topics with a property, and the bit that belongs to no topic is not set. -/
structure RedrawTopics.Exactly (s : RedrawTopics) (P : RedrawTopic → Prop) : Prop where
  topics : ∀ t, s.contains t = true ↔ P t
  spare : s.bits &&& 0x80 = 0

theorem Registry.redrawsAlways_iff {r : Registry} {v : VizType} :
    r.redrawsAlways v = true ↔ r.AlwaysRedraws v :=
  Option.any_eq_true _ _

theorem SeenInput.isReady_eq_false {s : SeenInput} : s.isReady = false ↔ s.Unready := by
  constructor
  · intro unready
    by_contra ready
    have present : s.input.result.isSome = true := by
      by_contra absent
      exact ready (.missing (Option.not_isSome_iff_eq_none.1 absent))
    have unfailed : s.input.resultFailed = false := by
      by_contra failed
      obtain ⟨q, result, error⟩ := (Option.any_eq_true _ _).1 (Bool.not_eq_false _ ▸ failed)
      exact ready (.failed q result (Option.isSome_iff_ne_none.1 error))
    have uncovered : s.status.overlay = false := by
      by_contra overlay
      exact ready (.covered (Bool.not_eq_false _ ▸ overlay))
    have displayable : s.status.status.any (·.isDisplayable) = true := by
      by_contra undisplayable
      refine ready (.undisplayable ?_ ?_) <;> intro status <;> exact undisplayable (by rw [status]; rfl)
    simp [isReady, present, unfailed, uncovered, displayable] at unready
  · intro unready
    cases unready with
    | missing absent => simp [isReady, absent]
    | failed q result error =>
      have failed : s.input.resultFailed = true := by
        simpa [RenderInput.resultFailed, QueryResult.hasError, result] using
          Option.isSome_iff_ne_none.2 error
      simp [isReady, failed]
    | undisplayable unsuccessful unrendered =>
      cases status : s.status.status with
      | none => simp [isReady, status]
      | some stage =>
        rw [status] at unsuccessful unrendered
        cases stage <;> simp_all [isReady, ChartStatus.isDisplayable]
    | covered overlay => simp [isReady, overlay]

/-! ## Sets of topics -/

namespace RedrawTopics

/-- Adding a topic leaves the spare bit alone. -/
theorem spare_addIf {s : RedrawTopics} {t : RedrawTopic} {changed : Bool} :
    (s.addIf t changed).bits &&& 0x80 = s.bits &&& 0x80 := by
  cases changed with
  | false => rfl
  | true =>
    have apart : t.bit &&& 0x80 = 0 := by cases t <;> decide
    have split : (s.bits ||| t.bit) &&& 0x80 = s.bits &&& 0x80 ||| t.bit &&& 0x80 :=
      UInt8.eq_of_toBitVec_eq BitVec.and_or_distrib_right
    show (s.bits ||| t.bit) &&& 0x80 = _
    rw [split, apart, UInt8.or_zero]

/-- A set without the bit that belongs to no topic is made up of its topics. -/
theorem eq_foldl_toList {s : RedrawTopics} (spare : s.bits &&& 0x80 = 0) :
    s = s.toList.foldl add none := by
  have every : ∀ n : Fin 256, UInt8.ofNat n &&& 0x80 = 0 →
      (⟨UInt8.ofNat n⟩ : RedrawTopics) = (toList ⟨UInt8.ofNat n⟩).foldl add none := by
    decide +kernel
  have own := every ⟨s.bits.toNat, s.bits.toNat_lt⟩
  rw [UInt8.ofNat_toNat] at own
  exact own spare

/-- The topics determine the set. -/
theorem Exactly.unique {s u : RedrawTopics} {P : RedrawTopic → Prop} (first : s.Exactly P)
    (second : u.Exactly P) : s = u := by
  have same : s.contains = u.contains := by
    funext t
    rw [Bool.eq_iff_iff, first.topics, second.topics]
  rw [eq_foldl_toList first.spare, eq_foldl_toList second.spare, toList, toList, same]

theorem Exactly.single (t : RedrawTopic) : (RedrawTopics.single t).Exactly (· = t) := by
  cases t <;> exact ⟨fun u => by cases u <;> decide, rfl⟩

end RedrawTopics

/-! ## Agreement of inputs -/

theorem Value.rel_symm {v w : Option Value} (same : Option.Rel Value.Equal v w) :
    Option.Rel Value.Equal w v := by
  cases same with
  | some equal => exact .some equal.symm
  | none => exact .none

theorem Value.rel_trans {u v w : Option Value} (first : Option.Rel Value.Equal u v)
    (second : Option.Rel Value.Equal v w) : Option.Rel Value.Equal u w := by
  cases first with
  | some equal =>
    cases second with
    | some equal' => exact .some (equal.trans equal')
  | none => exact second

/-- Options agree where their values are equal, and where both are absent. -/
theorem sameOption_iff {v w : Option Value} :
    sameOption v w = true ↔ Option.Rel Value.Equal v w := by
  constructor
  · intro same
    cases v with
    | none =>
      cases w with
      | none => exact .none
      | some _ => exact nomatch same
    | some v =>
      cases w with
      | none => exact nomatch same
      | some w => exact .some (Value.agrees_iff_equal.1 same)
  · intro same
    cases same with
    | some equal => exact Value.agrees_iff_equal.2 equal
    | none => rfl

namespace RenderInput

variable {i j k previous next other : RenderInput} {t : RedrawTopic}

theorem AgreesIn.symm (agree : i.AgreesIn j t) : j.AgreesIn i t := by
  cases t with
  | colorScheme => exact Value.rel_symm agree
  | _ => exact Eq.symm agree

theorem AgreesIn.trans (first : i.AgreesIn j t) (second : j.AgreesIn k t) : i.AgreesIn k t := by
  cases t with
  | colorScheme => exact Value.rel_trans first second
  | _ => exact Eq.trans first second

/-- The inputs differ in the topics in which the second asks for a redraw. -/
theorem differs_iff : previous.differs next t = true ↔ previous.AsksIn next t := by
  cases t with
  | forceRender => exact Iff.rfl
  | colorScheme =>
    show (!sameOption _ _) = true ↔ ¬ Option.Rel _ _ _
    rw [← sameOption_iff, Bool.not_eq_true', Bool.not_eq_true]
  | _ => simp [differs, AsksIn, AgreesIn, Payload.same]

/-- An input that follows an unchanged pair asks for a redraw in the topics in which it does not agree with the
second of the pair. -/
theorem asksIn_of_unasked (unasked : ∀ u, ¬ previous.AsksIn next u) :
    previous.AsksIn other t ↔ ¬ next.AgreesIn other t := by
  have kept := unasked t
  cases t with
  | forceRender =>
    have unforced : next.forceRender = false := Bool.eq_false_iff.2 kept
    show other.forceRender = true ↔ ¬ next.forceRender = other.forceRender
    rw [unforced]
    cases other.forceRender <;> simp
  | _ =>
    have agree := not_not.1 kept
    exact not_congr ⟨agree.symm.trans, agree.trans⟩

end RenderInput

/-! ## The decisions -/

variable {r : Registry} {previous next : SeenInput}

/-- The changed topics are exactly those in which the second input asks for a redraw. -/
theorem exactly_changedTopics (previous next : RenderInput) :
    (changedTopics previous next).Exactly (previous.AsksIn next) where
  topics t := by rw [contains_changedTopics, RenderInput.differs_iff]
  spare := by
    simp only [changedTopics, RedrawTopics.spare_addIf]
    rfl

/-- No topic is reported exactly where nothing asks for a redraw. -/
theorem isNone_changedTopics_iff (previous next : RenderInput) :
    (changedTopics previous next).isNone = true ↔ ∀ t, ¬ previous.AsksIn next t := by
  simp only [isNone_changedTopics, ← RenderInput.differs_iff, Bool.not_eq_true]

/-- The condition under which each decision is taken. -/
theorem evaluateRedraw_iff (r : Registry) (previous next : SeenInput) :
    let decision := evaluateRedraw r previous next
    let always := r.AlwaysRedraws next.input.vizType
    let asksIn := previous.input.AsksIn next.input
    (decision = .typeOverride ↔ always) ∧
    (decision = .notReady ↔ ¬ always ∧ next.Unready) ∧
    (decision = .unchanged ↔ ¬ always ∧ ¬ next.Unready ∧ ∀ t, ¬ asksIn t) ∧
    (∀ topics, decision = .changed topics ↔
      ¬ always ∧ ¬ next.Unready ∧ (∃ t, asksIn t) ∧ topics.Exactly asksIn) := by
  intro decision always asksIn
  by_cases override : always
  · have taken : decision = .typeOverride := evaluateRedraw_of_always (Registry.redrawsAlways_iff.2 override)
    simp [taken, override]
  have ordinary : r.redrawsAlways next.input.vizType = false := by
    rwa [← Bool.not_eq_true, Registry.redrawsAlways_iff]
  by_cases unready : next.Unready
  · have taken : decision = .notReady :=
      evaluateRedraw_of_unready ordinary (SeenInput.isReady_eq_false.2 unready)
    simp [taken, override, unready]
  have ready : next.isReady = true := by
    rwa [← Bool.not_eq_false, SeenInput.isReady_eq_false]
  have taken : decision = _ := evaluateRedraw_of_ready ordinary ready
  have exactly : (changedTopics previous.input next.input).Exactly asksIn := exactly_changedTopics _ _
  cases empty : (changedTopics previous.input next.input).isNone with
  | true =>
    have unasked : ∀ t, ¬ asksIn t := (isNone_changedTopics_iff _ _).1 empty
    rw [empty, if_pos rfl] at taken
    simp [taken, override, unready, unasked]
  | false =>
    have asked : ∃ t, asksIn t := by
      by_contra unasked
      rw [not_exists, ← isNone_changedTopics_iff, empty] at unasked
      exact Bool.false_ne_true unasked
    rw [empty, if_neg Bool.false_ne_true] at taken
    have notAll : ¬ ∀ t, ¬ asksIn t := not_forall_not.2 asked
    simp only [taken, override, unready, asked, notAll, RedrawDecision.changed.injEq, reduceCtorEq,
      not_false_eq_true, true_and, and_false, iff_self]
    exact fun topics => ⟨fun same => same ▸ exactly, fun own => exactly.unique own⟩

/-- After an unchanged pair, an input that differs from the second of the pair in one aspect is a change of that
single topic. -/
theorem evaluateRedraw_of_single {other : SeenInput} {t : RedrawTopic}
    (unchanged : evaluateRedraw r previous next = .unchanged)
    (ordinary : ¬ r.AlwaysRedraws other.input.vizType) (ready : ¬ other.Unready)
    (single : ∀ u, next.input.AgreesIn other.input u ↔ u ≠ t) :
    evaluateRedraw r previous other = .changed (.single t) := by
  obtain ⟨-, -, unasked⟩ := (evaluateRedraw_iff r previous next).2.2.1.1 unchanged
  have asks (u : RedrawTopic) : previous.input.AsksIn other.input u ↔ u = t := by
    rw [RenderInput.asksIn_of_unasked unasked, single, not_not]
  refine ((evaluateRedraw_iff r previous other).2.2.2 _).2 ⟨ordinary, ready, ⟨t, (asks t).2 rfl⟩, ?_, ?_⟩
  · intro u
    rw [(RedrawTopics.Exactly.single t).topics, asks]
  · exact (RedrawTopics.Exactly.single t).spare

/-- Types that are registered as always redrawn pass, whatever else is given. An input of any other type is not
ready exactly if its results cannot be displayed. One that is ready is unchanged if it asks for a redraw in no
topic, and otherwise changed in exactly the topics in which it asks for one. Where it is unchanged, an input
that is ready too and differs from it in one tracked aspect is a change of that single topic. The status, the
type and the force flag of the first input play no part in this, nor does the alert of the second. -/
theorem gate_reports_exact_changes (r : Registry) (previous next : SeenInput) :
    let decision := evaluateRedraw r previous next
    let always := r.AlwaysRedraws next.input.vizType
    let asksIn := previous.input.AsksIn next.input
    (decision = .typeOverride ↔ always) ∧
    (decision = .notReady ↔ ¬ always ∧ next.Unready) ∧
    (decision = .unchanged ↔ ¬ always ∧ ¬ next.Unready ∧ ∀ t, ¬ asksIn t) ∧
    (∀ topics, decision = .changed topics ↔
      ¬ always ∧ ¬ next.Unready ∧ (∃ t, asksIn t) ∧ topics.Exactly asksIn) ∧
    (decision = .unchanged → ∀ (other : SeenInput) (t : RedrawTopic),
      ¬ r.AlwaysRedraws other.input.vizType → ¬ other.Unready →
      (∀ u, next.input.AgreesIn other.input u ↔ u ≠ t) →
      evaluateRedraw r previous other = .changed (.single t)) ∧
    (∀ status vizType forced alert,
      evaluateRedraw r ⟨{ previous.input with vizType := vizType, forceRender := forced }, status⟩
        ⟨next.input, { next.status with alert := alert }⟩ = decision) := by
  intro decision always asksIn
  obtain ⟨override, notReady, unchanged, changed⟩ := evaluateRedraw_iff r previous next
  refine ⟨override, notReady, unchanged, changed, ?_, ?_⟩
  · intro same other t ordinary ready single
    exact evaluateRedraw_of_single same ordinary ready single
  · intro status vizType forced alert
    rfl

/-- A line chart that is submitted again is unchanged, and changed in its width alone once it is wider. -/
theorem widened_chart_changes_in_width :
    let i := RenderInput.loaded ⟨7⟩
    let wider : RenderInput := { i with viewport := ⟨800, 480⟩ }
    let s := StatusSnapshot.plain .success
    evaluateRedraw .builtin ⟨i, s⟩ ⟨i, s⟩ = .unchanged ∧
      ¬ Registry.builtin.AlwaysRedraws wider.vizType ∧ ¬ (⟨wider, s⟩ : SeenInput).Unready ∧
      (∀ u, i.AgreesIn wider u ↔ u ≠ .width) ∧
      evaluateRedraw .builtin ⟨i, s⟩ ⟨wider, s⟩ = .changed (.single .width) := by
  intro i wider s
  have unchanged : evaluateRedraw .builtin ⟨i, s⟩ ⟨i, s⟩ = .unchanged := rfl
  have ordinary : ¬ Registry.builtin.AlwaysRedraws wider.vizType := by
    rw [← Registry.redrawsAlways_iff]
    decide
  have ready : ¬ (⟨wider, s⟩ : SeenInput).Unready := by
    rw [← SeenInput.isReady_eq_false]
    decide
  have single (u : RedrawTopic) : i.AgreesIn wider u ↔ u ≠ .width := by
    cases u with
    | width =>
      have apart : (640 : UInt32) ≠ 800 := by decide
      exact iff_of_false apart (not_not.2 rfl)
    | colorScheme => exact iff_of_true .none (by decide)
    | _ => exact iff_of_true rfl (by decide)
  exact ⟨unchanged, ordinary, ready, single,
    (gate_reports_exact_changes .builtin ⟨i, s⟩ ⟨i, s⟩).2.2.2.2.1 unchanged ⟨wider, s⟩ .width
      ordinary ready single⟩

end Redraw
