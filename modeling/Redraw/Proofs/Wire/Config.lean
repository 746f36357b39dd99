import Redraw.Proofs.Json.Layout
import Redraw.Proofs.Wire.Encodings

/-!
# Configurations read back

A configuration is read back from its text, whatever characters are in it and whatever rows it has. So
the registry that is built from what was read, and the class names, are those of the configuration.
-/

namespace Redraw

/-- There are no numbers in a row, so nothing hangs on how numbers are spelled. -/
theorem StrategyRow.numbers_encode (r : StrategyRow) : (Wire.encode r).numbers = [] := by
  obtain ⟨v, always, label, engine⟩ := r
  cases label <;> rfl

namespace RenderConfig

variable (c : RenderConfig)

theorem encode_eq :
    Wire.encode c =
      .obj [("legacy_class_prefix", .str c.classLead),
        ("legacy_prefixed_viz_types", .arr (c.ledTags.map .str)),
        ("strategies", .arr (c.rows.map Wire.encode))] := rfl

/-- A configuration is nested three levels deep, and every part of it names a value. -/
theorem slight_encode : (Wire.encode c).Slight := by
  have tags : Json.readableItems (c.ledTags.map .str) = true ∧
      Json.depthItems (c.ledTags.map .str) ≤ 0 := by
    constructor
    · refine Json.readableItems_of_all fun item inside => ?_
      obtain ⟨tag, -, rfl⟩ := List.mem_map.1 inside
      rfl
    · refine Json.depthItems_le fun item inside => ?_
      obtain ⟨tag, -, rfl⟩ := List.mem_map.1 inside
      exact Nat.le_refl 0
  have rows : Json.readableItems (c.rows.map Wire.encode) = true ∧
      Json.depthItems (c.rows.map Wire.encode) ≤ 1 := by
    constructor
    · refine Json.readableItems_of_all fun item inside => ?_
      obtain ⟨row, -, rfl⟩ := List.mem_map.1 inside
      exact row.readable_encode
    · refine Json.depthItems_le fun item inside => ?_
      obtain ⟨row, -, rfl⟩ := List.mem_map.1 inside
      exact Nat.le_of_eq row.depth_encode
  rw [encode_eq]
  constructor
  · simp [Json.readable, Json.readableMembers, tags.1, rows.1]
  · simp only [Json.depth, Json.depthMembers]
    omega

theorem numbers_encode : (Wire.encode c).numbers = [] := by
  have tags : Json.numbersItems (c.ledTags.map .str) = [] := by
    refine Json.numbersItems_eq_nil fun item inside => ?_
    obtain ⟨tag, -, rfl⟩ := List.mem_map.1 inside
    rfl
  have rows : Json.numbersItems (c.rows.map Wire.encode) = [] := by
    refine Json.numbersItems_eq_nil fun item inside => ?_
    obtain ⟨row, -, rfl⟩ := List.mem_map.1 inside
    exact row.numbers_encode
  rw [encode_eq]
  simp [Json.numbers, Json.numbersMembers, tags, rows]

/-- The indented text of a configuration spells its document, and the document decodes to it. -/
theorem read_pretty : RenderConfig.read (Wire.pretty c) = .ok c := by
  have slight := c.slight_encode
  have spelled : Json.read? (Wire.pretty c) = some (Wire.encode c) :=
    Json.read?_pretty slight.readable slight.depth_le_limit
      (Json.floatsReadBack_of_numbers_eq_nil c.numbers_encode)
  unfold RenderConfig.read
  rw [Wire.read_of_decode spelled c.decode_encode]

end RenderConfig

/-- A configuration is what its text is read as. A dashboard that is set up by what was read has the
registry, or the refusal, and the class names of the configuration. -/
theorem config_round_trips (c : RenderConfig) :
    RenderConfig.read (Wire.pretty c) = .ok c ∧
      ∀ d, RenderConfig.read (Wire.pretty c) = .ok d →
        d.registry = c.registry ∧ ∀ v, d.classNamer.className v = c.classNamer.className v := by
  have read := c.read_pretty
  refine ⟨read, fun d reloaded => ?_⟩
  rw [read] at reloaded
  cases reloaded
  exact ⟨rfl, fun _ => rfl⟩

end Redraw
