import Redraw.Chart.ClassName
import Redraw.Proofs.Text.SnakeCase

/-!
# Class names with the lead stay apart

No snake case holds a hyphen. So where the lead of a namer holds one, the types that get the lead are told from
all others by their class names alone.
-/

namespace Redraw

open Text

theorem hyphen_notMem_snakeCase (s : String) : '-' ∉ (snakeCase s).toList := by
  apply notMem_snakeCase (by decide) _ (by decide)
  rw [isAlphanumeric_ascii (by decide)]
  rfl

namespace ClassNamer

variable {n : ClassNamer} {u v : VizType}

theorem className_of_led (led : v.tag ∈ n.ledTags) : n.className v = n.lead ++ snakeCase v.tag :=
  if_pos led

theorem className_of_plain (plain : v.tag ∉ n.ledTags) : n.className v = snakeCase v.tag :=
  if_neg plain

/-- A lead with a hyphen is found in front of the class names of the types that get it, and of no others. -/
theorem lead_isPrefix_iff (hyphened : '-' ∈ n.lead.toList) :
    n.lead.toList <+: (n.className v).toList ↔ v.tag ∈ n.ledTags := by
  constructor
  · intro leads
    by_contra plain
    rw [className_of_plain plain] at leads
    exact hyphen_notMem_snakeCase v.tag (leads.subset hyphened)
  · intro led
    rw [className_of_led led, String.toList_append]
    exact List.prefix_append _ _

end ClassNamer

/-- No snake case holds a hyphen. So under a lead that holds one, a type that gets it never shares its class name
with a type that does not, and under the lead for older style sheets `table` is the only type that gets it. -/
theorem led_class_names_stay_apart :
    (∀ s, '-' ∉ (snakeCase s).toList) ∧
      (∀ (n : ClassNamer) (u v : VizType), '-' ∈ n.lead.toList → u.tag ∈ n.ledTags → v.tag ∉ n.ledTags →
        n.className u ≠ n.className v) ∧
      ∀ v : VizType, "superset-chart-".toList <+: (ClassNamer.default.className v).toList ↔ v.tag = "table" := by
  refine ⟨hyphen_notMem_snakeCase, ?_, ?_⟩
  · intro n u v hyphened led plain same
    have leads := (ClassNamer.lead_isPrefix_iff hyphened).2 led
    rw [same] at leads
    exact plain ((ClassNamer.lead_isPrefix_iff hyphened).1 leads)
  · intro v
    have hyphened : '-' ∈ ClassNamer.default.lead.toList := by decide
    exact (ClassNamer.lead_isPrefix_iff hyphened).trans List.mem_singleton

/-- `Table` is not `table`: it keeps the plain class name, which differs from the other's. -/
theorem capital_table_stays_apart :
    ClassNamer.default.className ⟨"table"⟩ ≠ ClassNamer.default.className ⟨"Table"⟩ ∧
      ClassNamer.default.className ⟨"Table"⟩ = "table" :=
  ⟨led_class_names_stay_apart.2.1 ClassNamer.default ⟨"table"⟩ ⟨"Table"⟩ (by decide) (by decide) (by decide),
    by decide +kernel⟩

end Redraw
