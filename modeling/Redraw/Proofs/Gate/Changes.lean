import Redraw.Gate.Decision

/-!
# What has changed between two inputs

The changed topics are exactly those in which the inputs differ, and the bit that belongs to no topic is
never set. So the gate lets an input that is ready pass exactly if its type is always redrawn or it differs
from the one before it. An input does not differ from itself, unless it asks for a redraw by force.
-/

namespace Redraw

/-- The inputs differ in the topic. An input that is forced differs from every other one. -/
def RenderInput.differs (previous next : RenderInput) : RedrawTopic → Bool
  | .queryResult => !Payload.same previous.result next.result
  | .annotations => !Payload.same previous.annotations next.annotations
  | .width => previous.viewport.width != next.viewport.width
  | .height => previous.viewport.height != next.viewport.height
  | .forceRender => next.forceRender
  | .colorScheme => !sameOption previous.form.colorScheme? next.form.colorScheme?
  | .cacheBuster => previous.cacheBuster != next.cacheBuster

/-- The second of two inputs is worth a redraw while it is ready: its type is always redrawn, or it differs
from the first. -/
def Registry.Redraws (r : Registry) (previous next : RenderInput) : Prop :=
  r.redrawsAlways next.vizType = true ∨ ∃ t, previous.differs next t = true

/-! ## Sets of topics -/

namespace RedrawTopics

theorem bit_ne_zero (t : RedrawTopic) : t.bit ≠ 0 := by
  cases t <;> decide

/-- Topics have different bits. -/
theorem bit_and_bit {t u : RedrawTopic} (apart : t ≠ u) : t.bit &&& u.bit = 0 := by
  revert apart
  cases t <;> cases u <;> decide

@[simp]
theorem contains_none (t : RedrawTopic) : none.contains t = false := by
  cases t <;> rfl

@[simp]
theorem isNone_none : none.isNone = true := rfl

theorem contains_add (s : RedrawTopics) (t u : RedrawTopic) :
    (s.add t).contains u = (s.contains u || decide (t = u)) := by
  have split : (s.bits ||| t.bit) &&& u.bit = s.bits &&& u.bit ||| t.bit &&& u.bit :=
    UInt8.eq_of_toBitVec_eq BitVec.and_or_distrib_right
  unfold contains add
  rw [split]
  by_cases same : t = u
  · subst same
    simp [UInt8.or_eq_zero_iff, bit_ne_zero]
  · simp [bit_and_bit same, same]

theorem isNone_add (s : RedrawTopics) (t : RedrawTopic) : (s.add t).isNone = false := by
  simp [isNone, add, UInt8.or_eq_zero_iff, bit_ne_zero]

/-- A topic that is added has changed, and the others belong to the set if they did before. -/
@[simp]
theorem contains_addIf (s : RedrawTopics) (t u : RedrawTopic) (changed : Bool) :
    (s.addIf t changed).contains u = (s.contains u || changed && decide (t = u)) := by
  cases changed with
  | false => simp [addIf]
  | true =>
    simp only [addIf, if_true, Bool.true_and]
    exact s.contains_add t u

/-- A set stays empty while nothing that is added has changed. -/
@[simp]
theorem isNone_addIf (s : RedrawTopics) (t : RedrawTopic) (changed : Bool) :
    (s.addIf t changed).isNone = (s.isNone && !changed) := by
  cases changed with
  | false => simp [addIf]
  | true => simp [addIf, isNone_add]

end RedrawTopics

/-! ## The changed topics -/

/-- The changed topics are those in which the inputs differ. -/
theorem contains_changedTopics (previous next : RenderInput) (t : RedrawTopic) :
    (changedTopics previous next).contains t = previous.differs next t := by
  cases t <;> simp [changedTopics, RenderInput.differs]

/-- No topic has changed exactly if the inputs differ in none. -/
theorem isNone_changedTopics (previous next : RenderInput) :
    (changedTopics previous next).isNone = true ↔ ∀ t, previous.differs next t = false := by
  constructor
  · intro unchanged t
    simp only [changedTopics, RedrawTopics.isNone_addIf, Bool.and_eq_true, Bool.not_eq_true'] at unchanged
    obtain ⟨⟨⟨⟨⟨⟨⟨-, result⟩, annotations⟩, width⟩, height⟩, force⟩, scheme⟩, buster⟩ := unchanged
    cases t with
    | queryResult => exact result
    | annotations => exact annotations
    | width => exact width
    | height => exact height
    | forceRender => exact force
    | colorScheme => exact scheme
    | cacheBuster => exact buster
  · intro same
    simp only [changedTopics, RedrawTopics.isNone_addIf, RedrawTopics.isNone_none, Bool.true_and,
      Bool.and_eq_true, Bool.not_eq_true']
    exact ⟨⟨⟨⟨⟨⟨same .queryResult, same .annotations⟩, same .width⟩, same .height⟩,
      same .forceRender⟩, same .colorScheme⟩, same .cacheBuster⟩

@[simp]
theorem Payload.same_self {α : Type} (p : Option (Payload α)) : Payload.same p p = true := by
  simp [same]

@[simp]
theorem sameOption_self (v : Option Value) : sameOption v v = true := by
  cases v with
  | none => rfl
  | some v => exact v.agrees_self

/-- An input differs from itself only where it is forced. -/
theorem RenderInput.exists_differs_self (i : RenderInput) :
    (∃ t, i.differs i t = true) ↔ i.forceRender = true := by
  constructor
  · rintro ⟨t, differs⟩
    cases t with
    | forceRender => exact differs
    | queryResult | annotations | width | height | colorScheme | cacheBuster =>
      simp [RenderInput.differs] at differs
  · intro forced
    exact ⟨.forceRender, forced⟩

/-! ## What the gate decides -/

variable {r : Registry} {previous next : SeenInput}

theorem evaluateRedraw_of_always (always : r.redrawsAlways next.input.vizType = true) :
    evaluateRedraw r previous next = .typeOverride := by
  unfold evaluateRedraw
  rw [if_pos always]

theorem evaluateRedraw_of_unready (ordinary : r.redrawsAlways next.input.vizType = false)
    (unready : next.isReady = false) : evaluateRedraw r previous next = .notReady := by
  unfold evaluateRedraw
  rw [if_neg (by simp [ordinary]), if_pos (by simp [unready])]

/-- An input of an ordinary type that is ready goes by its topics. -/
theorem evaluateRedraw_of_ready (ordinary : r.redrawsAlways next.input.vizType = false)
    (ready : next.isReady = true) :
    evaluateRedraw r previous next =
      if (changedTopics previous.input next.input).isNone then .unchanged
      else .changed (changedTopics previous.input next.input) := by
  unfold evaluateRedraw
  rw [if_neg (by simp [ordinary]), if_neg (by simp [ready])]

/-- What the gate lets pass as changed comes with the changed topics, and there is one. -/
theorem topics_of_changed {topics : RedrawTopics}
    (changed : evaluateRedraw r previous next = .changed topics) :
    topics = changedTopics previous.input next.input ∧ topics.isNone = false := by
  cases always : r.redrawsAlways next.input.vizType with
  | true =>
    rw [evaluateRedraw_of_always always] at changed
    exact nomatch changed
  | false =>
    cases ready : next.isReady with
    | false =>
      rw [evaluateRedraw_of_unready always ready] at changed
      exact nomatch changed
    | true =>
      rw [evaluateRedraw_of_ready always ready] at changed
      split at changed
      · exact nomatch changed
      · next differs =>
        obtain rfl := RedrawDecision.changed.inj changed
        exact ⟨rfl, Bool.eq_false_iff.2 differs⟩

/-- The gate lets an input that is ready pass exactly if it is worth a redraw. -/
theorem isRedraw_of_ready (ready : next.isReady = true) :
    (evaluateRedraw r previous next).isRedraw = true ↔ r.Redraws previous.input next.input := by
  unfold Registry.Redraws
  cases always : r.redrawsAlways next.input.vizType with
  | true => simp [evaluateRedraw_of_always always, RedrawDecision.isRedraw]
  | false =>
    rw [evaluateRedraw_of_ready always ready]
    cases unchanged : (changedTopics previous.input next.input).isNone with
    | true =>
      have same := (isNone_changedTopics _ _).1 unchanged
      simp [RedrawDecision.isRedraw, same]
    | false =>
      have differs : ¬ ∀ t, previous.input.differs next.input t = false := by
        rw [← isNone_changedTopics, unchanged]
        exact Bool.false_ne_true
      simpa [RedrawDecision.isRedraw] using differs

/-- An input that is ready is held back only because it is unchanged. -/
theorem eq_unchanged_of_ready (ready : next.isReady = true)
    (held : (evaluateRedraw r previous next).isRedraw = false) :
    evaluateRedraw r previous next = .unchanged := by
  cases always : r.redrawsAlways next.input.vizType with
  | true =>
    rw [evaluateRedraw_of_always always] at held
    exact nomatch held
  | false =>
    rw [evaluateRedraw_of_ready always ready] at held ⊢
    split
    · rfl
    · next changed =>
      rw [if_neg changed] at held
      exact nomatch held

end Redraw
