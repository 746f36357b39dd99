import Mathlib
import Redraw.Json.Value

/-!
# Equal values

When two values are equal is said here part by part, and comparing values finds out exactly that. Numbers are
equal as integers, or as numbers with a fraction, where either zero stands for both; an integer never equals a
number with a fraction. Equality goes both ways and is passed on.
-/

namespace Redraw

namespace Json

/-! ## Numbers with a fraction -/

/-- Two numbers are equal if they are numbers at all and the same, or the two zeros. -/
theorem beq_iff {x y : Float} :
    (x == y) = true ↔ x.toModel.unpack ≠ .notANumber ∧ y.toModel.unpack ≠ .notANumber ∧
      (x.toModel.unpack = y.toModel.unpack ∨
        (x.toModel.unpack = .zero .positive ∧ y.toModel.unpack = .zero .negative) ∨
        (x.toModel.unpack = .zero .negative ∧ y.toModel.unpack = .zero .positive)) :=
  Float.Model.UnpackedFloat.beq_iff_ne_notANumber_and_eq _ _

/-- Comparing numbers does not depend on which comes first, signed zeros included. -/
theorem beq_symm {x y : Float} (same : (x == y) = true) : (y == x) = true := by
  obtain ⟨left, right, same⟩ := beq_iff.1 same
  refine beq_iff.2 ⟨right, left, ?_⟩
  rcases same with same | ⟨positive, negative⟩ | ⟨negative, positive⟩
  · exact .inl same.symm
  · exact .inr (.inr ⟨negative, positive⟩)
  · exact .inr (.inl ⟨positive, negative⟩)

/-- Numbers that equal the same number are equal. -/
theorem beq_trans {x y z : Float} (first : (x == y) = true) (second : (y == z) = true) :
    (x == z) = true := by
  obtain ⟨left, -, first⟩ := beq_iff.1 first
  obtain ⟨-, right, second⟩ := beq_iff.1 second
  refine beq_iff.2 ⟨left, right, ?_⟩
  rcases first with first | first | first <;> rcases second with second | second | second <;> simp_all

/-! ## Documents -/

mutual

/-- The documents are of one shape, with equal parts in the same places. -/
inductive Equal : Json → Json → Prop where
  | null : Equal .null .null
  | bool (b : Bool) : Equal (.bool b) (.bool b)
  | int (i : Int) (fits) : Equal (.num (.int i fits)) (.num (.int i fits))
  | float {x y : Float} (same : (x == y) = true) (finite finite') :
      Equal (.num (.float x finite)) (.num (.float y finite'))
  | str (s : String) : Equal (.str s) (.str s)
  | arr {as bs : List Json} (items : EqualItems as bs) : Equal (.arr as) (.arr bs)
  | obj {as bs : List (String × Json)} (members : EqualMembers as bs) : Equal (.obj as) (.obj bs)

/-- The items are equal one by one. -/
inductive EqualItems : List Json → List Json → Prop where
  | nil : EqualItems [] []
  | cons {a b : Json} {as bs : List Json} (head : Equal a b) (tail : EqualItems as bs) :
      EqualItems (a :: as) (b :: bs)

/-- The members have the same names in order, and equal values. -/
inductive EqualMembers : List (String × Json) → List (String × Json) → Prop where
  | nil : EqualMembers [] []
  | cons (name : String) {a b : Json} {as bs : List (String × Json)} (head : Equal a b)
      (tail : EqualMembers as bs) : EqualMembers ((name, a) :: as) ((name, b) :: bs)

end

mutual

/-- Documents that agree are equal. -/
theorem equal_of_agrees : ∀ {a b : Json}, a.agrees b = true → Equal a b
  | .null, b, agree => by
    cases b with
    | null => exact .null
    | _ => simp [agrees] at agree
  | .bool _, b, agree => by
    cases b with
    | bool =>
      simp only [agrees, decide_eq_true_eq] at agree
      exact agree ▸ .bool _
    | _ => simp [agrees] at agree
  | .num (.int _ _), b, agree => by
    cases b with
    | num n =>
      cases n with
      | int =>
        simp only [agrees, decide_eq_true_eq] at agree
        subst agree
        exact .int _ _
      | float => simp [agrees] at agree
    | _ => simp [agrees] at agree
  | .num (.float _ _), b, agree => by
    cases b with
    | num n =>
      cases n with
      | int => simp [agrees] at agree
      | float =>
        simp only [agrees] at agree
        exact .float agree _ _
    | _ => simp [agrees] at agree
  | .str _, b, agree => by
    cases b with
    | str =>
      simp only [agrees, decide_eq_true_eq] at agree
      exact agree ▸ .str _
    | _ => simp [agrees] at agree
  | .arr _, b, agree => by
    cases b with
    | arr =>
      simp only [agrees] at agree
      exact .arr (equalItems_of_agrees agree)
    | _ => simp [agrees] at agree
  | .obj _, b, agree => by
    cases b with
    | obj =>
      simp only [agrees] at agree
      exact .obj (equalMembers_of_agrees agree)
    | _ => simp [agrees] at agree
  | .unreadable, _, agree => by simp [agrees] at agree

theorem equalItems_of_agrees :
    ∀ {as bs : List Json}, agreesItems as bs = true → EqualItems as bs
  | [], [], _ => .nil
  | [], _ :: _, agree | _ :: _, [], agree => by simp [agreesItems] at agree
  | _ :: _, _ :: _, agree => by
    simp only [agreesItems, Bool.and_eq_true] at agree
    exact .cons (equal_of_agrees agree.1) (equalItems_of_agrees agree.2)

theorem equalMembers_of_agrees :
    ∀ {as bs : List (String × Json)}, agreesMembers as bs = true → EqualMembers as bs
  | [], [], _ => .nil
  | [], _ :: _, agree | _ :: _, [], agree => by simp [agreesMembers] at agree
  | (_, _) :: _, (_, _) :: _, agree => by
    simp only [agreesMembers, Bool.and_eq_true, decide_eq_true_eq] at agree
    obtain ⟨⟨rfl, head⟩, tail⟩ := agree
    exact .cons _ (equal_of_agrees head) (equalMembers_of_agrees tail)

end

mutual

/-- Equal documents agree. -/
theorem Equal.agrees : ∀ {a b : Json}, Equal a b → a.agrees b = true
  | _, _, .null => rfl
  | _, _, .bool _ | _, _, .int _ _ | _, _, .str _ => by simp [Json.agrees]
  | _, _, .float same _ _ => by simpa only [Json.agrees] using same
  | _, _, .arr items => by simpa only [Json.agrees] using items.agrees
  | _, _, .obj members => by simpa only [Json.agrees] using members.agrees

theorem EqualItems.agrees : ∀ {as bs : List Json}, EqualItems as bs → agreesItems as bs = true
  | _, _, .nil => rfl
  | _, _, .cons head tail => by simp [agreesItems, head.agrees, tail.agrees]

theorem EqualMembers.agrees :
    ∀ {as bs : List (String × Json)}, EqualMembers as bs → agreesMembers as bs = true
  | _, _, .nil => rfl
  | _, _, .cons _ head tail => by simp [agreesMembers, head.agrees, tail.agrees]

end

mutual

/-- Documents are compared without regard to which comes first. -/
theorem Equal.symm : ∀ {a b : Json}, Equal a b → Equal b a
  | _, _, .null => .null
  | _, _, .bool b => .bool b
  | _, _, .int i fits => .int i fits
  | _, _, .float same finite finite' => .float (beq_symm same) finite' finite
  | _, _, .str s => .str s
  | _, _, .arr items => .arr items.symm
  | _, _, .obj members => .obj members.symm

theorem EqualItems.symm : ∀ {as bs : List Json}, EqualItems as bs → EqualItems bs as
  | _, _, .nil => .nil
  | _, _, .cons head tail => .cons head.symm tail.symm

theorem EqualMembers.symm :
    ∀ {as bs : List (String × Json)}, EqualMembers as bs → EqualMembers bs as
  | _, _, .nil => .nil
  | _, _, .cons name head tail => .cons name head.symm tail.symm

end

mutual

/-- Documents that equal the same document are equal. -/
theorem Equal.trans : ∀ {a b c : Json}, Equal a b → Equal b c → Equal a c
  | _, _, _, .null, second => second
  | _, _, _, .bool _, second => second
  | _, _, _, .int _ _, second => second
  | _, _, _, .float first finite _, .float second _ finite' =>
    .float (beq_trans first second) finite finite'
  | _, _, _, .str _, second => second
  | _, _, _, .arr first, .arr second => .arr (first.trans second)
  | _, _, _, .obj first, .obj second => .obj (first.trans second)

theorem EqualItems.trans :
    ∀ {as bs cs : List Json}, EqualItems as bs → EqualItems bs cs → EqualItems as cs
  | _, _, _, .nil, second => second
  | _, _, _, .cons head tail, .cons head' tail' => .cons (head.trans head') (tail.trans tail')

theorem EqualMembers.trans : ∀ {as bs cs : List (String × Json)},
    EqualMembers as bs → EqualMembers bs cs → EqualMembers as cs
  | _, _, _, .nil, second => second
  | _, _, _, .cons name head tail, .cons _ head' tail' =>
    .cons name (head.trans head') (tail.trans tail')

end

end Json

/-! ## Values -/

namespace Value

/-- The values are equal part by part. -/
def Equal (v w : Value) : Prop := Json.Equal v.json w.json

/-- Values agree exactly if they are equal. -/
theorem agrees_iff_equal {v w : Value} : v.agrees w = true ↔ v.Equal w :=
  ⟨Json.equal_of_agrees, Json.Equal.agrees⟩

theorem Equal.symm {v w : Value} (same : v.Equal w) : w.Equal v := Json.Equal.symm same

theorem Equal.trans {u v w : Value} (first : u.Equal v) (second : v.Equal w) : u.Equal w :=
  Json.Equal.trans first second

end Value

end Redraw
