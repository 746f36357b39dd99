import Mathlib.Data.List.Induction
import Redraw.Dashboard.Operation

/-!
# Histories of runs

A run leaves a history: for every operation the moment at which it was carried out. What a run has
done is said by looking at its history, never at the dashboard. A statement about all runs is an
invariant between the history so far and the dashboard: it holds of a fresh dashboard and no history,
and every moment keeps it (`run_induction`).
-/

namespace Redraw

/-- An operation, and the dashboard that it is carried out on. -/
structure Moment where
  before : Dashboard
  op : Operation

/-- The dashboard once the operation is carried out. -/
def Moment.after (m : Moment) : Dashboard := (m.before.step m.op).1

/-- What the operation answers, and what is emitted meanwhile. -/
def Moment.reply (m : Moment) : Reply := (m.before.step m.op).2

/-- The moments of a run, the oldest first. -/
abbrev History := List Moment

namespace Dashboard

/-- The dashboard after a run. -/
def after (d : Dashboard) (ops : List Operation) : Dashboard := (d.run ops).1

/-- The history of a run. -/
def history (d : Dashboard) : List Operation → History
  | [] => []
  | op :: rest => ⟨d, op⟩ :: (d.step op).1.history rest

@[simp]
theorem after_nil (d : Dashboard) : d.after [] = d := rfl

@[simp]
theorem after_cons (d : Dashboard) (op : Operation) (ops : List Operation) :
    d.after (op :: ops) = (d.step op).1.after ops := rfl

@[simp]
theorem history_nil (d : Dashboard) : d.history [] = [] := rfl

@[simp]
theorem history_cons (d : Dashboard) (op : Operation) (ops : List Operation) :
    d.history (op :: ops) = ⟨d, op⟩ :: (d.step op).1.history ops := rfl

/-- The replies of a run are those of its moments. -/
theorem replies_eq_history (d : Dashboard) (ops : List Operation) :
    (d.run ops).2 = (d.history ops).map (·.reply) := by
  induction ops generalizing d with
  | nil => rfl
  | cons op rest ih => exact congrArg ((d.step op).2 :: ·) (ih (d.step op).1)

theorem after_snoc (d : Dashboard) (ops : List Operation) (op : Operation) :
    d.after (ops ++ [op]) = ((d.after ops).step op).1 := by
  induction ops generalizing d with
  | nil => rfl
  | cons first rest ih => simp only [List.cons_append, after_cons, ih]

theorem history_snoc (d : Dashboard) (ops : List Operation) (op : Operation) :
    d.history (ops ++ [op]) = d.history ops ++ [⟨d.after ops, op⟩] := by
  induction ops generalizing d with
  | nil => rfl
  | cons first rest ih => simp only [List.cons_append, history_cons, ih, after_cons]

theorem after_append (d : Dashboard) (first rest : List Operation) :
    d.after (first ++ rest) = (d.after first).after rest := by
  induction first generalizing d with
  | nil => rfl
  | cons op first ih => simp only [List.cons_append, after_cons, ih]

/-- The history of two runs, one after the other. -/
theorem history_append (d : Dashboard) (first rest : List Operation) :
    d.history (first ++ rest) = d.history first ++ (d.after first).history rest := by
  induction first generalizing d with
  | nil => rfl
  | cons op first ih => simp only [List.cons_append, history_cons, after_cons, ih]

/-- A moment of a run comes after the run up to it. -/
theorem exists_run_before {d : Dashboard} {ops : List Operation} {m : Moment}
    (member : m ∈ d.history ops) :
    ∃ first rest, ops = first ++ m.op :: rest ∧ m.before = d.after first := by
  induction ops generalizing d with
  | nil => exact absurd member List.not_mem_nil
  | cons op ops ih =>
    rcases List.mem_cons.1 member with rfl | later
    · exact ⟨[], ops, rfl, rfl⟩
    · obtain ⟨first, rest, rfl, before⟩ := ih later
      exact ⟨op :: first, rest, rfl, before⟩

/-- What is carried out at a moment of a run is one of its operations. -/
theorem op_mem_of_mem_history {d : Dashboard} {ops : List Operation} {m : Moment}
    (member : m ∈ d.history ops) : m.op ∈ ops := by
  obtain ⟨first, rest, rfl, -⟩ := exists_run_before member
  exact List.mem_append_right _ List.mem_cons_self

/-- A history that is split in two is the history of two runs, one after the other. -/
theorem history_split {d : Dashboard} {ops : List Operation} {earlier later : History}
    (split : d.history ops = earlier ++ later) :
    ∃ first rest, earlier = d.history first ∧ later = (d.after first).history rest := by
  induction earlier generalizing d ops with
  | nil => exact ⟨[], ops, rfl, split.symm⟩
  | cons m earlier ih =>
    cases ops with
    | nil => simp at split
    | cons op ops =>
      obtain ⟨rfl, tail⟩ := List.cons.inj split
      obtain ⟨first, rest, rfl, rfl⟩ := ih tail
      exact ⟨op :: first, rest, rfl, rfl⟩

/-- The history before a moment of a run is the history of a run up to the dashboard of the moment. -/
theorem history_before {d : Dashboard} {ops : List Operation} {earlier later : History} {m : Moment}
    (split : d.history ops = earlier ++ m :: later) :
    ∃ first, earlier = d.history first ∧ m.before = d.after first := by
  obtain ⟨first, rest, rfl, now⟩ := history_split split
  cases rest with
  | nil => simp at now
  | cons op rest =>
    obtain ⟨rfl, -⟩ := List.cons.inj now
    exact ⟨first, rfl, rfl⟩

/-- What holds of a dashboard and no history, and is kept by every moment, holds of every run. -/
theorem run_induction {I : History → Dashboard → Prop} {d : Dashboard} (fresh : I [] d)
    (kept : ∀ h e op, I h e → I (h ++ [⟨e, op⟩]) (e.step op).1) (ops : List Operation) :
    I (d.history ops) (d.after ops) := by
  induction ops using List.reverseRecOn with
  | nil => exact fresh
  | append_singleton ops op ih =>
    rw [history_snoc, after_snoc]
    exact kept _ _ op ih

end Dashboard

/-- At some moment `P` held, and `Q` has not held at any moment since. -/
def Since (P Q : Moment → Prop) (h : History) : Prop :=
  ∃ earlier m later, h = earlier ++ m :: later ∧ P m ∧ ∀ n ∈ later, ¬ Q n

/-- Nothing holds since a moment where there was none. -/
theorem not_since_nil {P Q : Moment → Prop} : ¬ Since P Q [] := by
  rintro ⟨earlier, m, later, split, -⟩
  simp at split

/-- A moment makes the newest history. What held since is kept unless it is ended. -/
theorem since_snoc {P Q : Moment → Prop} {h : History} {m : Moment} :
    Since P Q (h ++ [m]) ↔ P m ∨ Since P Q h ∧ ¬ Q m := by
  constructor
  · rintro ⟨earlier, n, later, split, held, quiet⟩
    rcases List.eq_nil_or_concat later with rfl | ⟨later, last, rfl⟩
    · obtain ⟨-, rfl⟩ : h = earlier ∧ m = n := by simpa using split
      exact .inl held
    · have split : h ++ [m] = (earlier ++ n :: later) ++ [last] := by simpa using split
      obtain ⟨rfl, tail⟩ := List.append_inj' split rfl
      obtain rfl : m = last := by simpa using tail
      exact .inr ⟨⟨earlier, n, later, rfl, held, fun k hk => quiet k (by simp [hk])⟩,
        quiet m (by simp)⟩
  · rintro (held | ⟨⟨earlier, n, later, rfl, held, quiet⟩, ended⟩)
    · exact ⟨h, m, [], rfl, held, by simp⟩
    · refine ⟨earlier, n, later ++ [m], by simp, held, fun k hk => ?_⟩
      rcases List.mem_append.1 hk with old | new
      · exact quiet k old
      · rwa [List.mem_singleton.1 new]

/-- What held since still does as long as nothing ends it. -/
theorem Since.append {P Q : Moment → Prop} {h later : History} (held : Since P Q h)
    (quiet : ∀ m ∈ later, ¬ Q m) : Since P Q (h ++ later) := by
  obtain ⟨earlier, m, rest, rfl, holds, still⟩ := held
  refine ⟨earlier, m, rest ++ later, by simp, holds, fun n inside => ?_⟩
  exact (List.mem_append.1 inside).elim (still n) (quiet n)

/-- What did not hold since still does not as long as nothing starts it. -/
theorem not_since_append {P Q : Moment → Prop} {h later : History} (unheld : ¬ Since P Q h)
    (never : ∀ m ∈ later, ¬ P m) : ¬ Since P Q (h ++ later) := by
  induction later using List.reverseRecOn with
  | nil => rwa [List.append_nil]
  | append_singleton later m ih =>
    rw [← List.append_assoc, since_snoc]
    have before := ih fun n inside => never n (List.mem_append_left _ inside)
    exact not_or.2 ⟨never m (by simp), fun now => before now.1⟩

/-- There is only one most recent moment at which `Q` held. -/
theorem since_unique {Q : Moment → Prop} {b b' : Moment} {h : History} (left : Since (· = b) Q h)
    (right : Since (· = b') Q h) (holds : Q b) (holds' : Q b') : b = b' := by
  induction h using List.reverseRecOn with
  | nil => exact absurd left not_since_nil
  | append_singleton h m ih =>
    rcases since_snoc.1 left with rfl | ⟨left, quiet⟩ <;>
      rcases since_snoc.1 right with rfl | ⟨right, quiet'⟩
    · rfl
    · exact absurd holds quiet'
    · exact absurd holds' quiet
    · exact ih left right

/-! ## A small dashboard -/

/-- A line chart with nothing to draw yet. -/
def RenderInput.plain (c : ChartId) : RenderInput where
  chart := c
  vizType := ⟨"line"⟩
  viewport := ⟨640, 480⟩
  result := none
  annotations := none
  datasource := none
  form := ∅
  initialValues := ∅
  forceRender := false
  cacheBuster := none

/-- A line chart with the result of a query. -/
def RenderInput.loaded (c : ChartId) : RenderInput :=
  { RenderInput.plain c with result := some ⟨"rows", ⟨.null, none⟩⟩ }

/-- A dashboard without strategies and hooks on which nothing has happened. -/
def Dashboard.blank : Dashboard := .new ∅ .default { epoch := 0 } .recording {}

end Redraw
