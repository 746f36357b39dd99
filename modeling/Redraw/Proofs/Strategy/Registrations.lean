import Redraw.Proofs.History
import Redraw.Proofs.Outcomes

/-!
# Registrations

The strategies of a dashboard are those that were registered and not taken away since, in the order of their
registration. `standing` says which these are for a log of registrations and removals, without a registry. The
log of a run starts with the strategies that the dashboard started with, and has one entry for every operation
that changes the registry. The registry lists the standing ones after every moment of the run.
-/

namespace Redraw

/-! ## Registering and looking up -/

namespace Registry

variable {r : Registry} {v : VizType} {s : Strategy}

/-- What is looked up about a type comes from this strategy, or from the default one where there is none. -/
structure Serves (r : Registry) (v : VizType) (s : Option Strategy) : Prop where
  strategy : r.get? v = s
  resolved : r.resolve v = s.getD {}
  always : r.redrawsAlways v = (s.getD {}).alwaysRedraw

theorem serves_get? (r : Registry) (v : VizType) : r.Serves v (r.get? v) := by
  refine ⟨rfl, rfl, ?_⟩
  unfold redrawsAlways
  cases r.get? v <;> rfl

/-- A type is served by the strategy that it is listed with. -/
theorem serves_of_mem (listed : (v, s) ∈ r.entries) : r.Serves v (some s) := by
  have served := r.serves_get? v
  rwa [OrderedMap.get?_eq_some_iff.2 listed] at served

/-- A type that is not listed is served by the default strategy. -/
theorem serves_of_notMem (unlisted : v ∉ r.keys) : r.Serves v none := by
  have served := r.serves_get? v
  rwa [OrderedMap.get?_eq_none_iff.2 unlisted] at served

/-- The ways in which a registration can go, each with what leads to it. -/
inductive Registration (r : Registry) (v : VizType) (s : Strategy) : Prop where
  | untyped (missing : v.tag = "") (outcome : r.register v s = .error .untypedStrategy)
  | taken (typed : v.tag ≠ "") (listed : v ∈ r.keys)
      (outcome : r.register v s = .error (.strategyTaken v))
  | listed (typed : v.tag ≠ "") (new : v ∉ r.keys) (outcome : r.register v s = .ok (r.insert v s))

theorem registration (r : Registry) (v : VizType) (s : Strategy) : r.Registration v s := by
  by_cases missing : v.tag = ""
  · exact .untyped missing (if_pos (VizType.isEmpty_iff.2 missing))
  · have typed : ¬ v.isEmpty = true := fun empty => missing (VizType.isEmpty_iff.1 empty)
    by_cases listed : v ∈ r.keys
    · refine .taken missing listed ?_
      rw [register, if_neg typed, if_pos (OrderedMap.contains_iff.2 listed)]
    · refine .listed missing listed ?_
      rw [register, if_neg typed, if_neg fun known => listed (OrderedMap.contains_iff.1 known)]

end Registry

namespace Dashboard

variable {d : Dashboard} {v : VizType} {s : Strategy}

theorem perform_addStrategy (d : Dashboard) (v : VizType) (s : Strategy) :
    d.perform (.addStrategy v s) =
      d.unlessRefused ((d.registry.register v s).map fun r => { d with registry := r }) := rfl

/-- A registration without a tag or of a listed type changes nothing. -/
theorem addStrategy_refused (wrong : v.tag = "" ∨ v ∈ d.registry.keys) :
    ∃ fault, d.perform (.addStrategy v s) = { value := .refusal fault, dashboard := d } := by
  rw [perform_addStrategy]
  cases d.registry.registration v s with
  | untyped _ outcome | taken _ _ outcome =>
    rw [outcome]
    exact ⟨_, rfl⟩
  | listed typed new _ => exact (wrong.elim typed new).elim

/-- Every other registration is listed. -/
theorem addStrategy_done (right : ¬ (v.tag = "" ∨ v ∈ d.registry.keys)) :
    d.perform (.addStrategy v s) =
      { value := .done, dashboard := { d with registry := d.registry.insert v s } } := by
  rw [perform_addStrategy]
  cases d.registry.registration v s with
  | untyped missing _ => exact absurd (.inl missing) right
  | taken _ listed _ => exact absurd (.inr listed) right
  | listed _ _ outcome =>
    rw [outcome]
    rfl

/-- A removal tells whether the type was listed, and drops it alone. -/
theorem step_removeStrategy (d : Dashboard) (v : VizType) :
    let after := d.step (.removeStrategy v)
    after.2.answer = .flag (decide (v ∈ d.registry.keys)) ∧
      after.1.registry.entries = d.registry.entries.filter (·.1 ≠ v) := by
  intro after
  have contained : d.registry.contains v = decide (v ∈ d.registry.keys) := by
    rw [Bool.eq_iff_iff, OrderedMap.contains_iff, decide_eq_true_iff]
  constructor
  · show Answer.flag (d.registry.contains v) = _
    rw [contained]
  · show d.registry.entries.filter (fun entry => !decide (entry.1 = v)) = _
    simp only [ne_eq, decide_not]

end Dashboard

/-! ## Logs of registrations -/

/-- A change of the registry: a strategy is registered for a type, or that of a type is taken away. -/
inductive RegistryChange where
  | added (v : VizType) (s : Strategy)
  | dropped (v : VizType)

namespace RegistryChange

/-- The type that a change is about. -/
def vizType : RegistryChange → VizType
  | added v _ | dropped v => v

/-- The last that a log says of a type is that the strategy was registered for it. -/
def Stands (log : List RegistryChange) (v : VizType) (s : Strategy) : Prop :=
  ∃ earlier later, log = earlier ++ added v s :: later ∧ v ∉ later.map vizType

/-- The types and strategies that stand in a log, in the order in which they were registered. -/
def standing : List RegistryChange → List (VizType × Strategy)
  | [] => []
  | added v s :: later =>
    if v ∈ later.map vizType then standing later else (v, s) :: standing later
  | dropped _ :: later => standing later

/-- A new change ends what stood for its type before. -/
theorem standing_snoc (log : List RegistryChange) (x : RegistryChange) :
    standing (log ++ [x]) = (standing log).filter (·.1 ≠ x.vizType) ++ standing [x] := by
  induction log with
  | nil => rfl
  | cons change log ih =>
    cases change with
    | dropped v => exact ih
    | added v s =>
      have mentioned : v ∈ (log ++ [x]).map vizType ↔ v ∈ log.map vizType ∨ v = x.vizType := by
        rw [List.map_append, List.mem_append, List.map_singleton, List.mem_singleton]
      rw [List.cons_append, standing, standing, ih]
      by_cases again : v ∈ log.map vizType
      · rw [if_pos (mentioned.2 (.inl again)), if_pos again]
      · by_cases ended : v = x.vizType
        · rw [if_pos (mentioned.2 (.inr ended)), if_neg again, List.filter_cons_of_neg (by simpa using ended)]
        · rw [if_neg fun later => (mentioned.1 later).elim again ended, if_neg again,
            List.filter_cons_of_pos (by simpa using ended), List.cons_append]

/-- Where types are registered once each and nothing is taken away, everything stands. -/
theorem standing_added {entries : List (VizType × Strategy)} (distinct : (entries.map Prod.fst).Nodup) :
    standing (entries.map fun entry => added entry.1 entry.2) = entries := by
  induction entries with
  | nil => rfl
  | cons entry rest ih =>
    obtain ⟨new, distinct⟩ := List.nodup_cons.1 distinct
    have unmentioned : entry.1 ∉ (rest.map fun entry => added entry.1 entry.2).map vizType := by
      rwa [List.map_map]
    rw [List.map_cons, standing, if_neg unmentioned, ih distinct]

/-- What stands in a longer log is its first entry, if nothing later is about the type, or stands in the rest. -/
theorem stands_cons {change : RegistryChange} {log : List RegistryChange} {v : VizType} {s : Strategy} :
    Stands (change :: log) v s ↔ (change = added v s ∧ v ∉ log.map vizType) ∨ Stands log v s := by
  constructor
  · rintro ⟨earlier, later, split, silent⟩
    cases earlier with
    | nil =>
      obtain ⟨rfl, rfl⟩ := List.cons.inj split
      exact .inl ⟨rfl, silent⟩
    | cons first earlier =>
      obtain ⟨rfl, rfl⟩ := List.cons.inj split
      exact .inr ⟨earlier, later, rfl, silent⟩
  · rintro (⟨rfl, silent⟩ | ⟨earlier, later, rfl, silent⟩)
    · exact ⟨[], log, rfl, silent⟩
    · exact ⟨change :: earlier, later, rfl, silent⟩

/-- Exactly what stands in a log is listed as standing. -/
theorem mem_standing {log : List RegistryChange} {v : VizType} {s : Strategy} :
    (v, s) ∈ standing log ↔ Stands log v s := by
  induction log with
  | nil => simp [standing, Stands]
  | cons change log ih =>
    rw [stands_cons, ← ih]
    cases change with
    | dropped w => simp [standing]
    | added w t =>
      by_cases again : w ∈ log.map vizType
      · rw [standing, if_pos again]
        constructor
        · exact .inr
        · rintro (⟨same, silent⟩ | stands)
          · cases same
            exact absurd again silent
          · exact stands
      · rw [standing, if_neg again, List.mem_cons]
        constructor
        · rintro (same | stands)
          · cases same
            exact .inl ⟨rfl, again⟩
          · exact .inr stands
        · rintro (⟨same, -⟩ | stands)
          · cases same
            exact .inl rfl
          · exact .inr stands

end RegistryChange

open RegistryChange

/-! ## One moment -/

namespace Moment

/-- The change of the registry at the moment. A registration that is refused is none. -/
def registryChange? (m : Moment) : Option RegistryChange :=
  match m.op, m.reply.answer with
  | .addStrategy v s, .done => some (.added v s)
  | .removeStrategy v, _ => some (.dropped v)
  | _, _ => none

/-- What a moment does to the registry. -/
inductive Enrollment (m : Moment) : Prop where
  | adds (v : VizType) (s : Strategy) (change : m.registryChange? = some (.added v s))
      (typed : v.tag ≠ "") (new : v ∉ m.before.registry.keys)
      (entries : m.after.registry.entries = m.before.registry.entries ++ [(v, s)])
  | drops (v : VizType) (change : m.registryChange? = some (.dropped v))
      (entries : m.after.registry.entries = m.before.registry.entries.filter (·.1 ≠ v))
  | keeps (change : m.registryChange? = none) (registry : m.after.registry = m.before.registry)

theorem enrollment_of_addStrategy (d : Dashboard) (v : VizType) (s : Strategy) :
    Enrollment ⟨d, .addStrategy v s⟩ := by
  have answer : (⟨d, .addStrategy v s⟩ : Moment).reply.answer = (d.perform (.addStrategy v s)).value := rfl
  have after : (⟨d, .addStrategy v s⟩ : Moment).after = (d.perform (.addStrategy v s)).dashboard := rfl
  by_cases wrong : v.tag = "" ∨ v ∈ d.registry.keys
  · obtain ⟨fault, outcome⟩ := Dashboard.addStrategy_refused (d := d) (s := s) wrong
    rw [outcome] at answer after
    refine .keeps ?_ (congrArg (·.registry) after)
    rw [registryChange?, answer]
  · rw [Dashboard.addStrategy_done wrong] at answer after
    obtain ⟨typed, new⟩ := not_or.1 wrong
    refine .adds v s ?_ typed new ?_
    · rw [registryChange?, answer]
    · rw [after]
      exact OrderedMap.entries_insert_new new s

theorem enrollment_of_removeStrategy (d : Dashboard) (v : VizType) :
    Enrollment ⟨d, .removeStrategy v⟩ := by
  exact .drops v rfl (d.step_removeStrategy v).2

/-- Every moment adds a new type to the registry, or drops one, or leaves the registry as it is. -/
theorem enrollment (m : Moment) : m.Enrollment := by
  obtain ⟨d, op⟩ := m
  cases op with
  | addStrategy v s => exact enrollment_of_addStrategy d v s
  | removeStrategy v => exact enrollment_of_removeStrategy d v
  | _ => exact .keeps rfl ((d.step_keeps _).registry rfl)

end Moment

/-! ## Runs -/

/-- The changes of the registry in a history, after the strategies that the dashboard started with. -/
def registryLog (start : Registry) (h : History) : List RegistryChange :=
  (start.entries.map fun entry => .added entry.1 entry.2) ++ h.filterMap (·.registryChange?)

/-- The registry lists what stands, and every type that it lists has a tag. -/
structure Enrolled (start : Registry) (h : History) (d : Dashboard) : Prop where
  entries : d.registry.entries = standing (registryLog start h)
  typed : ∀ v ∈ d.registry.keys, v.tag ≠ ""

theorem registryLog_changed {start : Registry} {h : History} {m : Moment} {x : RegistryChange}
    (change : m.registryChange? = some x) : registryLog start (h ++ [m]) = registryLog start h ++ [x] := by
  simp [registryLog, change]

theorem registryLog_kept {start : Registry} {h : History} {m : Moment} (change : m.registryChange? = none) :
    registryLog start (h ++ [m]) = registryLog start h := by
  simp [registryLog, change]

namespace Enrolled

variable {start : Registry} {h : History} {m : Moment}

theorem fresh {namer : ClassNamer} {clock : Clock} {sink : TelemetrySink} {hooks : Hooks}
    (typed : ∀ v ∈ start.keys, v.tag ≠ "") :
    Enrolled start [] (.new start namer clock sink hooks) where
  entries := by
    rw [registryLog, List.filterMap_nil, List.append_nil, standing_added start.distinct]
    rfl
  typed := typed

/-- Every moment keeps the registry in line with the log. -/
theorem step (k : Enrolled start h m.before) : Enrolled start (h ++ [m]) m.after := by
  cases m.enrollment with
  | adds v s change typed new entries =>
    have others : m.before.registry.entries.filter (·.1 ≠ v) = m.before.registry.entries := by
      refine List.filter_eq_self.2 fun entry listed => decide_eq_true ?_
      rintro rfl
      exact new (List.mem_map_of_mem listed)
    constructor
    · rw [registryLog_changed change, standing_snoc, ← k.entries, entries]
      exact congrArg (· ++ [(v, s)]) others.symm
    · intro w listed
      rw [OrderedMap.keys, entries, List.map_append, List.mem_append] at listed
      obtain old | same := listed
      · exact k.typed w old
      · obtain rfl : w = v := List.mem_singleton.1 same
        exact typed
  | drops v change entries =>
    constructor
    · rw [registryLog_changed change, standing_snoc, ← k.entries, entries]
      exact (List.append_nil _).symm
    · intro w listed
      rw [OrderedMap.keys, entries] at listed
      exact k.typed w ((List.filter_sublist.map _).subset listed)
  | keeps change registry =>
    constructor
    · rw [registryLog_kept change, registry]
      exact k.entries
    · rw [registry]
      exact k.typed

theorem run {namer : ClassNamer} {clock : Clock} {sink : TelemetrySink} {hooks : Hooks}
    (typed : ∀ v ∈ start.keys, v.tag ≠ "") (ops : List Operation) :
    Enrolled start ((Dashboard.new start namer clock sink hooks).history ops)
      ((Dashboard.new start namer clock sink hooks).after ops) :=
  Dashboard.run_induction (I := Enrolled start) (fresh typed)
    (fun _ e op k => step (m := ⟨e, op⟩) k) ops

end Enrolled

/-- Take any run of a dashboard that starts with no strategies or with the ones known from the start. Every type
in its registry has a tag, and no two are the same. The registry lists what stands in the log of the run, that is
the types whose last registration is not followed by a removal, in the order of these registrations, and lookups
of a type lead to the strategy of its last registration, or to the default one. A registration is refused exactly
if the type has no tag or is listed already, and then the dashboard stays as it is. A removal tells whether the
type was listed and leaves all others as they are. -/
theorem registry_lists_what_stands (start : Registry) (known : start = ∅ ∨ start = .builtin) (namer : ClassNamer)
    (clock : Clock) (sink : TelemetrySink) (hooks : Hooks) (ops : List Operation) :
    let d := (Dashboard.new start namer clock sink hooks).after ops
    let log := registryLog start ((Dashboard.new start namer clock sink hooks).history ops)
    let r := d.registry
    (∀ v ∈ r.keys, v.tag ≠ "") ∧ r.keys.Nodup ∧ r.entries = standing log ∧
    (∀ v s, Stands log v s → r.Serves v (some s)) ∧
    (∀ v, (∀ s, ¬ Stands log v s) → r.Serves v none) ∧
    (∀ v s, let after := d.step (.addStrategy v s)
      ((∃ fault, after.2.answer = .refusal fault) ↔ v.tag = "" ∨ v ∈ r.keys) ∧
      (v.tag = "" ∨ v ∈ r.keys → after.1 = d) ∧
      (¬ (v.tag = "" ∨ v ∈ r.keys) →
        after.2.answer = .done ∧ after.1.registry.entries = r.entries ++ [(v, s)])) ∧
    ∀ v, let after := d.step (.removeStrategy v)
      after.2.answer = .flag (decide (v ∈ r.keys)) ∧
      after.1.registry.entries = r.entries.filter (·.1 ≠ v) := by
  intro d log r
  have typed : ∀ v ∈ start.keys, v.tag ≠ "" := by
    obtain rfl | rfl := known
    · exact fun v listed => nomatch listed
    · decide
  have enrolled : Enrolled start _ d := .run typed ops
  refine ⟨enrolled.typed, r.distinct, enrolled.entries, ?_, ?_, ?_, d.step_removeStrategy⟩
  · intro v s stands
    refine Registry.serves_of_mem ?_
    rw [enrolled.entries]
    exact mem_standing.2 stands
  · intro v fallen
    refine Registry.serves_of_notMem fun listed => ?_
    obtain ⟨s, found⟩ := OrderedMap.mem_keys_iff.1 listed
    have inside := OrderedMap.get?_eq_some_iff.1 found
    rw [enrolled.entries] at inside
    exact fallen s (mem_standing.1 inside)
  · intro v s
    obtain ⟨refused, unchanged, done⟩ := Dashboard.refused_exactly Dashboard.addStrategy_refused
      Dashboard.addStrategy_done
    refine ⟨refused, unchanged, fun right => ⟨(done right).1, ?_⟩⟩
    rw [(done right).2]
    exact OrderedMap.entries_insert_new (not_or.1 right).2 s

/-- A type that is taken away and registered again comes last. What is refused in between leaves no trace. -/
theorem box_plot_registered_again_comes_last :
    let ops : List Operation := [.removeStrategy ⟨"box_plot_fin"⟩, .addStrategy ⟨""⟩ .always,
      .addStrategy ⟨"box_plot_300_cap"⟩ {}, .addStrategy ⟨"line"⟩ {}, .addStrategy ⟨"box_plot_fin"⟩ {},
      .removeStrategy ⟨"table"⟩]
    let start := Dashboard.new .builtin .default { epoch := 0 } .recording {}
    let r := (start.after ops).registry
    (Registry.builtin = ∅ ∨ Registry.builtin = .builtin) ∧
      r.entries = standing (registryLog .builtin (start.history ops)) ∧
      r.keys = [⟨"box_plot_run_comp"⟩, ⟨"box_plot_fin_str"⟩, ⟨"box_plot_300_cap"⟩, ⟨"spot_price_histogram"⟩,
        ⟨"line"⟩, ⟨"box_plot_fin"⟩] := by
  intro ops start r
  have known : Registry.builtin = ∅ ∨ Registry.builtin = .builtin := .inr rfl
  have lists := registry_lists_what_stands .builtin known .default { epoch := 0 } .recording {} ops
  have entries : r.entries = standing (registryLog .builtin (start.history ops)) := lists.2.2.1
  refine ⟨known, entries, ?_⟩
  rw [OrderedMap.keys, entries]
  rfl

end Redraw
