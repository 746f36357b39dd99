import Mathlib.Data.List.Nodup
import Redraw.Proofs.Attempt.Announcements

/-!
# What observers receive

An observer attends from the moment at which it is added until it is removed. Those that attend are listed once
each, so every one of them receives everything that is told, once and in its order, and the others receive
nothing.
-/

namespace Redraw

namespace Moment

/-- An observer is added. One that is refused is not. -/
def Joins (m : Moment) (id : String) : Prop := m.op = .addObserver id ∧ m.reply.answer = .done

/-- An observer is removed. -/
def Leaves (m : Moment) (id : String) : Prop := m.op = .removeObserver id

end Moment

/-- The observer was added and has not been removed since. -/
def Attends (id : String) (h : History) : Prop := Since (·.Joins id) (·.Leaves id) h

/-- What an observer receives in a history. -/
def received (id : String) (h : History) : List LifecycleEvent :=
  ((h.flatMap (·.reply.delivered)).filter (·.1 = id)).map (·.2)

/-! ## Adding an observer -/

namespace Dashboard

variable {d : Dashboard} {id : String}

theorem perform_addObserver (d : Dashboard) (id : String) :
    d.perform (.addObserver id) = d.unlessRefused (d.addObserver id) := rfl

/-- An observer without an identifier, or with one that is listed, changes nothing. -/
theorem addObserver_refused (wrong : id = "" ∨ id ∈ d.observers) :
    ∃ fault, d.perform (.addObserver id) = { value := .refusal fault, dashboard := d } := by
  rw [perform_addObserver, addObserver]
  by_cases missing : id.isEmpty = true
  · rw [if_pos missing]
    exact ⟨_, rfl⟩
  · have listed : id ∈ d.observers := wrong.resolve_left (mt String.isEmpty_iff.2 missing)
    rw [if_neg missing, if_pos listed]
    exact ⟨_, rfl⟩

/-- Every other observer is listed last. -/
theorem addObserver_done (right : ¬ (id = "" ∨ id ∈ d.observers)) :
    d.perform (.addObserver id) =
      { value := .done, dashboard := { d with observers := d.observers ++ [id] } } := by
  obtain ⟨named, new⟩ := not_or.1 right
  rw [perform_addObserver, addObserver, if_neg (mt String.isEmpty_iff.1 named), if_neg new]
  rfl

end Dashboard

/-! ## Who attends -/

namespace Moment

/-- What a moment does to the observers. -/
inductive Turnover (m : Moment) : Prop where
  | joins (id : String) (joins : ∀ other, m.Joins other ↔ other = id) (remains : ∀ other, ¬ m.Leaves other)
      (named : id ≠ "") (new : id ∉ m.before.observers)
      (observers : m.after.observers = m.before.observers ++ [id])
  | leaves (id : String) (leaves : ∀ other, m.Leaves other ↔ other = id) (closed : ∀ other, ¬ m.Joins other)
      (observers : m.after.observers = m.before.observers.erase id)
  | stays (closed : ∀ other, ¬ m.Joins other) (remains : ∀ other, ¬ m.Leaves other)
      (observers : m.after.observers = m.before.observers)

theorem turnover_of_addObserver (d : Dashboard) (id : String) : Turnover ⟨d, .addObserver id⟩ := by
  have answer : (⟨d, .addObserver id⟩ : Moment).reply.answer = (d.perform (.addObserver id)).value := rfl
  have after : (⟨d, .addObserver id⟩ : Moment).after = (d.perform (.addObserver id)).dashboard := rfl
  have remains : ∀ other, ¬ (⟨d, .addObserver id⟩ : Moment).Leaves other := fun _ left => nomatch left
  by_cases wrong : id = "" ∨ id ∈ d.observers
  · obtain ⟨fault, outcome⟩ := Dashboard.addObserver_refused wrong
    rw [outcome] at answer after
    refine .stays ?_ remains (congrArg (·.observers) after)
    rintro other ⟨-, done⟩
    rw [answer] at done
    cases done
  · rw [Dashboard.addObserver_done wrong] at answer after
    obtain ⟨named, new⟩ := not_or.1 wrong
    refine .joins id (fun other => ⟨?_, ?_⟩) remains named new (congrArg (·.observers) after)
    · rintro ⟨joined, -⟩
      exact (Operation.addObserver.inj joined).symm
    · rintro rfl
      exact ⟨rfl, answer⟩

theorem turnover_of_removeObserver (d : Dashboard) (id : String) : Turnover ⟨d, .removeObserver id⟩ := by
  refine .leaves id (fun other => ⟨?_, ?_⟩) (fun _ joined => nomatch joined.1) rfl
  · intro left
    exact (Operation.removeObserver.inj left).symm
  · rintro rfl
    rfl

/-- Every moment adds a new observer, or removes one, or leaves the observers as they are. -/
theorem turnover (m : Moment) : m.Turnover := by
  obtain ⟨d, op⟩ := m
  cases op with
  | addObserver id => exact turnover_of_addObserver d id
  | removeObserver id => exact turnover_of_removeObserver d id
  | findObserver id => exact .stays (fun _ joined => nomatch joined.1) (fun _ left => nomatch left) rfl
  | _ =>
    exact .stays (fun _ joined => nomatch joined.1) (fun _ left => nomatch left)
      ((d.step_keeps _).observers rfl)

end Moment

/-- The observers all have identifiers, are listed once each, and are the ones that attend. -/
structure Roster (h : History) (d : Dashboard) : Prop where
  named : ∀ id ∈ d.observers, id ≠ ""
  distinct : d.observers.Nodup
  listed : ∀ id, id ∈ d.observers ↔ Attends id h

namespace Roster

variable {h : History} {m : Moment}

theorem fresh (registry : Registry) (namer : ClassNamer) (clock : Clock) (sink : TelemetrySink)
    (hooks : Hooks) : Roster [] (.new registry namer clock sink hooks) where
  named := fun _ listed => nomatch listed
  distinct := List.nodup_nil
  listed := fun _ => iff_of_false List.not_mem_nil not_since_nil

/-- Every moment keeps the observers in line with the history. -/
theorem step (r : Roster h m.before) : Roster (h ++ [m]) m.after := by
  cases m.turnover with
  | joins id joins remains named new observers =>
    constructor
    case named =>
      intro other listed
      rw [observers, List.mem_append, List.mem_singleton] at listed
      obtain old | rfl := listed
      · exact r.named other old
      · exact named
    case distinct =>
      rw [observers, ← List.concat_eq_append]
      exact r.distinct.concat new
    case listed =>
      intro other
      rw [observers, List.mem_append, List.mem_singleton, Attends, since_snoc, joins, r.listed other, or_comm]
      exact or_congr_right (and_iff_left (remains other)).symm
  | leaves id leaves closed observers =>
    constructor
    case named =>
      intro other listed
      rw [observers] at listed
      exact r.named other (List.mem_of_mem_erase listed)
    case distinct =>
      rw [observers]
      exact r.distinct.erase id
    case listed =>
      intro other
      rw [observers, r.distinct.mem_erase_iff, Attends, since_snoc, leaves, r.listed other,
        or_iff_right (closed other)]
      exact and_comm
  | stays closed remains observers =>
    refine ⟨observers ▸ r.named, observers ▸ r.distinct, fun other => ?_⟩
    rw [observers, Attends, since_snoc, or_iff_right (closed other), and_iff_left (remains other)]
    exact r.listed other

theorem run (registry : Registry) (namer : ClassNamer) (clock : Clock) (sink : TelemetrySink)
    (hooks : Hooks) (ops : List Operation) :
    Roster ((Dashboard.new registry namer clock sink hooks).history ops)
      ((Dashboard.new registry namer clock sink hooks).after ops) :=
  Dashboard.run_induction (I := Roster) (fresh registry namer clock sink hooks)
    (fun _ e op r => step (m := ⟨e, op⟩) r) ops

end Roster

/-! ## What each of them receives -/

/-- Of what is handed out to observers that are listed once each, every one gets everything, and nobody else gets
anything. -/
theorem deliveries_to {observers : List String} (distinct : observers.Nodup) (id : String)
    (events : List LifecycleEvent) :
    ((Dashboard.deliveries observers events).filter (·.1 = id)).map (·.2) =
      if id ∈ observers then events else [] := by
  have once : ∀ e : LifecycleEvent,
      ((observers.map fun o => (o, e)).filter (·.1 = id)).map (·.2) =
        if id ∈ observers then [e] else [] := by
    intro e
    rw [List.filter_map, List.map_map]
    show (observers.filter fun o => o = id).map (fun _ => e) = _
    rw [List.map_const', ← List.countP_eq_length_filter]
    show List.replicate (observers.count id) e = _
    rw [distinct.count]
    split <;> rfl
  induction events with
  | nil =>
    split <;> rfl
  | cons e rest ih =>
    rw [Dashboard.deliveries, List.flatMap_cons, List.filter_append, List.map_append, once]
    rw [Dashboard.deliveries] at ih
    rw [ih]
    split <;> rfl

/-- What is received in a history is received moment by moment. -/
theorem received_eq_flatMap (id : String) (h : History) :
    received id h = h.flatMap fun m => received id [m] := by
  simp only [received, List.filter_flatMap, List.map_flatMap, List.flatMap_cons, List.flatMap_nil,
    List.append_nil]

section

variable {registry : Registry} {namer : ClassNamer} {clock : Clock} {sink : TelemetrySink} {hooks : Hooks}
  {ops : List Operation} {earlier stay later : History} {m : Moment} {id : String}

/-- At every moment, those that attend receive what is told, and the others receive nothing. -/
theorem received_at
    (split : (Dashboard.new registry namer clock sink hooks).history ops = earlier ++ m :: later) :
    (Attends id earlier → received id [m] = m.reply.events) ∧ (¬ Attends id earlier → received id [m] = []) := by
  obtain ⟨first, rfl, before⟩ := Dashboard.history_before split
  have roster := Roster.run registry namer clock sink hooks first
  rw [← before] at roster
  have received : received id [m] = if id ∈ m.before.observers then m.reply.events else [] := by
    rw [Redraw.received, List.flatMap_singleton]
    exact deliveries_to roster.distinct id m.reply.events
  rw [received]
  constructor
  · intro attends
    exact if_pos ((roster.listed id).2 attends)
  · intro absent
    exact if_neg (mt (roster.listed id).1 absent)

/-- What an observer receives at a moment of a stretch depends on whether it attends after the moments before. -/
theorem received_within
    (split : (Dashboard.new registry namer clock sink hooks).history ops = earlier ++ stay ++ later)
    (inside : m ∈ stay) (id : String) :
    ∃ before rest, stay = before ++ m :: rest ∧
      (Attends id (earlier ++ before) → received id [m] = m.reply.events) ∧
      (¬ Attends id (earlier ++ before) → received id [m] = []) := by
  obtain ⟨before, rest, rfl⟩ := List.append_of_mem inside
  have here : (Dashboard.new registry namer clock sink hooks).history ops =
      (earlier ++ before) ++ m :: (rest ++ later) := by
    rw [split, List.append_assoc, List.append_assoc, List.append_assoc]
    rfl
  exact ⟨before, rest, rfl, received_at here⟩

/-- An observer receives what is told while it attends. -/
theorem received_attending
    (split : (Dashboard.new registry namer clock sink hooks).history ops = earlier ++ stay ++ later)
    (attends : Attends id earlier) (remains : ∀ m ∈ stay, ¬ m.Leaves id) : received id stay = told stay := by
  rw [received_eq_flatMap, told]
  refine List.flatMap_congr fun m inside => ?_
  obtain ⟨before, rest, rfl, attending, -⟩ := received_within split inside id
  apply attending
  exact attends.append fun n early => remains n (List.mem_append_left _ early)

/-- An observer receives nothing while it does not attend. -/
theorem received_absent
    (split : (Dashboard.new registry namer clock sink hooks).history ops = earlier ++ stay ++ later)
    (absent : ¬ Attends id earlier) (away : ∀ m ∈ stay, ¬ m.Joins id) : received id stay = [] := by
  rw [received_eq_flatMap, List.flatMap_eq_nil_iff]
  intro m inside
  obtain ⟨before, rest, rfl, -, missing⟩ := received_within split inside id
  apply missing
  exact not_since_append absent fun n early => away n (List.mem_append_left _ early)

end

end Redraw
