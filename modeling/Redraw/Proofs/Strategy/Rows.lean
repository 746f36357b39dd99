import Mathlib.Data.List.Induction
import Mathlib.Data.List.Nodup
import Redraw.Proofs.Strategy.Registrations

/-!
# Rows of a configuration

The rows of a configuration are registered one after the other, and the first one that is refused refuses them
all. Which one that is can be said without a registry: rows are sound if each has a type and no two have the
same, and the row that is refused is the first that is not sound together with the rows before it.
-/

namespace Redraw

/-- Every row has a type, and no two have the same. -/
structure SoundRows (rows : List StrategyRow) : Prop where
  typed : ∀ row ∈ rows, row.vizType.tag ≠ ""
  distinct : (rows.map (·.vizType)).Nodup

/-- What is wrong with a row that comes after others: it has no type, or the type of one of them. -/
inductive StrategyRow.Flaw (row : StrategyRow) (earlier : List StrategyRow) : Fault → Prop where
  | untyped (missing : row.vizType.tag = "") : Flaw row earlier .untypedStrategy
  | repeated (typed : row.vizType.tag ≠ "") (known : row.vizType ∈ earlier.map (·.vizType)) :
      Flaw row earlier (.strategyTaken row.vizType)

/-- A row as a registry lists it. -/
def StrategyRow.entry (row : StrategyRow) : VizType × Strategy := (row.vizType, row.strategy)

theorem soundRows_snoc {rows : List StrategyRow} {row : StrategyRow} :
    SoundRows (rows ++ [row]) ↔
      SoundRows rows ∧ row.vizType.tag ≠ "" ∧ row.vizType ∉ rows.map (·.vizType) := by
  have distinct : ((rows ++ [row]).map (·.vizType)).Nodup ↔
      row.vizType ∉ rows.map (·.vizType) ∧ (rows.map (·.vizType)).Nodup := by
    rw [List.map_append, List.map_singleton, ← List.concat_eq_append, List.nodup_concat]
  constructor
  · intro sound
    obtain ⟨new, old⟩ := distinct.1 sound.distinct
    exact ⟨⟨fun other inside => sound.typed other (List.mem_append_left _ inside), old⟩,
      sound.typed row (List.mem_append_right _ List.mem_cons_self), new⟩
  · rintro ⟨sound, typed, new⟩
    refine ⟨fun other inside => ?_, distinct.2 ⟨new, sound.distinct⟩⟩
    obtain old | last := List.mem_append.1 inside
    · exact sound.typed other old
    · rwa [List.mem_singleton.1 last]

/-- Rows that are not sound start with some that are, and a row that is wrong after these. -/
theorem sound_or_flawed (rows : List StrategyRow) :
    SoundRows rows ∨ ∃ earlier row later fault,
      rows = earlier ++ row :: later ∧ SoundRows earlier ∧ row.Flaw earlier fault := by
  induction rows using List.reverseRecOn with
  | nil => exact .inl ⟨by simp, List.nodup_nil⟩
  | append_singleton rows row ih =>
    obtain sound | ⟨earlier, other, later, fault, rfl, sound, flaw⟩ := ih
    · by_cases missing : row.vizType.tag = ""
      · exact .inr ⟨rows, row, [], _, rfl, sound, .untyped missing⟩
      · by_cases known : row.vizType ∈ rows.map (·.vizType)
        · exact .inr ⟨rows, row, [], _, rfl, sound, .repeated missing known⟩
        · exact .inl (soundRows_snoc.2 ⟨sound, missing, known⟩)
    · exact .inr ⟨earlier, other, later ++ [row], fault, by simp, sound, flaw⟩

namespace RenderConfig

variable {earlier : List StrategyRow} {row : StrategyRow} {r : Registry}

/-- Rows are registered on top of those before them. -/
theorem registerRows_append {start : Registry} (registered : registerRows start earlier = .ok r)
    (later : List StrategyRow) : registerRows start (earlier ++ later) = registerRows r later := by
  induction earlier generalizing start with
  | nil =>
    cases registered
    rfl
  | cons first rest ih =>
    rw [registerRows] at registered
    cases outcome : start.register first.vizType first.strategy with
    | error fault =>
      rw [outcome] at registered
      cases registered
    | ok next =>
      rw [outcome] at registered
      rw [List.cons_append, registerRows, outcome]
      exact ih registered

theorem keys_of_entries {rows : List StrategyRow} (entries : r.entries = rows.map StrategyRow.entry) :
    r.keys = rows.map (·.vizType) := by
  rw [OrderedMap.keys, entries, List.map_map]
  rfl

/-- Sound rows are listed as they are. -/
theorem registerRows_of_sound {rows : List StrategyRow} (sound : SoundRows rows) :
    ∃ r, registerRows ∅ rows = .ok r ∧ r.entries = rows.map StrategyRow.entry := by
  induction rows using List.reverseRecOn with
  | nil => exact ⟨∅, rfl, rfl⟩
  | append_singleton rows row ih =>
    obtain ⟨sound, typed, new⟩ := soundRows_snoc.1 sound
    obtain ⟨r, registered, entries⟩ := ih sound
    cases r.registration row.vizType row.strategy with
    | untyped missing _ => exact absurd missing typed
    | taken _ listed _ =>
      rw [keys_of_entries entries] at listed
      exact absurd listed new
    | listed _ new outcome =>
      refine ⟨r.insert row.vizType row.strategy, ?_, ?_⟩
      · rw [registerRows_append registered, registerRows, outcome]
        rfl
      · rw [OrderedMap.entries_insert_new new, entries, List.map_append]
        rfl

/-- A row that is wrong after sound ones is refused, and the rows after it are not looked at. -/
theorem registerRows_of_flaw {fault : Fault} (sound : SoundRows earlier) (flaw : row.Flaw earlier fault)
    (later : List StrategyRow) : registerRows ∅ (earlier ++ row :: later) = .error fault := by
  obtain ⟨r, registered, entries⟩ := registerRows_of_sound sound
  rw [registerRows_append registered, registerRows]
  cases r.registration row.vizType row.strategy with
  | untyped missing outcome =>
    rw [outcome]
    cases flaw with
    | untyped _ => rfl
    | repeated typed _ => exact absurd missing typed
  | taken typed _ outcome =>
    rw [outcome]
    cases flaw with
    | untyped missing => exact absurd missing typed
    | repeated _ _ => rfl
  | listed typed new _ =>
    cases flaw with
    | untyped missing => exact absurd missing typed
    | repeated _ known =>
      rw [keys_of_entries entries] at new
      exact absurd known new

end RenderConfig

/-- A configuration has a registry exactly if each of its rows has a type and no two have the same. The registry
lists the rows in their order and serves each type by the strategy of its row, and all other types by the default
one. Otherwise the fault is that of the first row that has no type or the type of a row before it, and it says
which of both is the case. -/
theorem first_flawed_row_refuses_config (c : RenderConfig) :
    ((∃ r, c.registry = .ok r) ↔ SoundRows c.rows) ∧
    (∀ r, c.registry = .ok r → r.entries = c.rows.map StrategyRow.entry ∧
      (∀ row ∈ c.rows, r.Serves row.vizType (some row.strategy)) ∧
      ∀ v, v ∉ c.rows.map (·.vizType) → r.Serves v none) ∧
    ∀ fault, c.registry = .error fault ↔
      ∃ earlier row later, c.rows = earlier ++ row :: later ∧ SoundRows earlier ∧ row.Flaw earlier fault := by
  have flawed {earlier row later fault} (split : c.rows = earlier ++ row :: later) (sound : SoundRows earlier)
      (flaw : row.Flaw earlier fault) : c.registry = .error fault := by
    rw [RenderConfig.registry, split]
    exact RenderConfig.registerRows_of_flaw sound flaw later
  have sound_of_ok {r} (built : c.registry = .ok r) : SoundRows c.rows := by
    obtain sound | ⟨_, _, _, _, split, sound, flaw⟩ := sound_or_flawed c.rows
    · exact sound
    · rw [flawed split sound flaw] at built
      cases built
  refine ⟨⟨fun ⟨r, built⟩ => sound_of_ok built, fun sound => ?_⟩, ?_, fun fault => ⟨?_, ?_⟩⟩
  · obtain ⟨r, built, -⟩ := RenderConfig.registerRows_of_sound sound
    exact ⟨r, built⟩
  · intro r built
    obtain ⟨listing, registered, entries⟩ := RenderConfig.registerRows_of_sound (sound_of_ok built)
    obtain rfl : listing = r := Except.ok.inj (registered.symm.trans built)
    refine ⟨entries, fun row inside => Registry.serves_of_mem ?_, fun v absent => Registry.serves_of_notMem ?_⟩
    · rw [entries]
      exact List.mem_map_of_mem inside
    · rwa [RenderConfig.keys_of_entries entries]
  · intro refused
    obtain sound | ⟨earlier, row, later, other, split, sound, flaw⟩ := sound_or_flawed c.rows
    · obtain ⟨r, built, -⟩ := RenderConfig.registerRows_of_sound sound
      rw [RenderConfig.registry, built] at refused
      cases refused
    · obtain rfl : other = fault := Except.error.inj ((flawed split sound flaw).symm.trans refused)
      exact ⟨earlier, row, later, split, sound, flaw⟩
  · rintro ⟨earlier, row, later, split, sound, flaw⟩
    exact flawed split sound flaw

/-- A type that is repeated before a row without a type is what a configuration is refused for. -/
theorem repeated_line_refuses_config :
    let c : RenderConfig := ⟨"", [], [⟨⟨"line"⟩, {}⟩, ⟨⟨"table"⟩, .always⟩, ⟨⟨"line"⟩, .always⟩, ⟨⟨""⟩, {}⟩]⟩
    ¬ SoundRows c.rows ∧ c.registry = .error (.strategyTaken ⟨"line"⟩) ∧
      (Fault.strategyTaken ⟨"line"⟩).message =
        "invalid data: strategy for viz type `line` is already registered" := by
  intro c
  have sound : SoundRows [⟨⟨"line"⟩, {}⟩, ⟨⟨"table"⟩, .always⟩] := ⟨by decide, by decide⟩
  have refused : c.registry = .error (.strategyTaken ⟨"line"⟩) :=
    ((first_flawed_row_refuses_config c).2.2 _).2
      ⟨[⟨⟨"line"⟩, {}⟩, ⟨⟨"table"⟩, .always⟩], ⟨⟨"line"⟩, .always⟩, [⟨⟨""⟩, {}⟩], rfl, sound,
        .repeated (by decide) (by decide)⟩
  refine ⟨fun all => ?_, refused, rfl⟩
  obtain ⟨r, built⟩ := (first_flawed_row_refuses_config c).1.2 all
  rw [refused] at built
  cases built

end Redraw
