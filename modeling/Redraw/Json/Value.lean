import Redraw.Json.Basic

/-!
# Free values

Option values, filter values and payloads are arbitrary JSON. As values the members of an object
have no order and no repetition, so a `Value` keeps them sorted by name, with the last one of
each name. Names are ordered by their code points.
-/

namespace Redraw

namespace Json

/-- Adds a member to sorted members unless its name is taken. -/
def addMember (name : String) (value : Json) : List (String × Json) → List (String × Json)
  | [] => [(name, value)]
  | (other, kept) :: rest =>
    if name < other then (name, value) :: (other, kept) :: rest
    else if name = other then (other, kept) :: rest
    else (other, kept) :: addMember name value rest

mutual

/-- The document with the members of its objects sorted and the last one kept of each name. -/
def sorted : Json → Json
  | .arr items => .arr (sortedItems items)
  | .obj members => .obj (sortedMembers members)
  | other => other

/-- `sorted` for the items of an array. -/
def sortedItems : List Json → List Json
  | [] => []
  | item :: rest => item.sorted :: sortedItems rest

/-- `sorted` for the members of an object. -/
def sortedMembers : List (String × Json) → List (String × Json)
  | [] => []
  | (name, value) :: rest => addMember name value.sorted (sortedMembers rest)

end

/-- The name comes before the first of the members. -/
def precedes (name : String) : List (String × Json) → Bool
  | [] => true
  | (other, _) :: _ => name < other

mutual

/-- The document is readable, and the members of its objects are strictly ascending by name. -/
def isSorted : Json → Bool
  | .unreadable => false
  | .arr items => isSortedItems items
  | .obj members => isSortedMembers members
  | _ => true

/-- Every item is sorted. -/
def isSortedItems : List Json → Bool
  | [] => true
  | item :: rest => item.isSorted && isSortedItems rest

/-- The members are strictly ascending by name, and each value is sorted. -/
def isSortedMembers : List (String × Json) → Bool
  | [] => true
  | (name, value) :: rest => precedes name rest && value.isSorted && isSortedMembers rest

end

theorem lt_of_not_lt_of_ne {a b : String} (h : ¬ a < b) (hne : ¬ a = b) : b < a := by
  rcases String.le_total b a with hle | hle
  · exact String.not_le.1 fun hab => hne (String.le_antisymm hab hle)
  · exact absurd (String.le_antisymm hle (String.not_lt.1 h)) hne

/-- Adding a member does not put any name before one that preceded all and precedes the new one. -/
theorem precedes_addMember {first name : String} {value : Json} {members : List (String × Json)}
    (hlt : first < name) (h : precedes first members = true) :
    precedes first (addMember name value members) = true := by
  cases members with
  | nil => simpa [addMember, precedes] using hlt
  | cons member rest =>
    simp only [addMember]
    split
    · simpa [precedes] using hlt
    · split <;> exact h

/-- Adding a sorted member to sorted members keeps them sorted. -/
theorem isSortedMembers_addMember {name : String} {value : Json} (hv : value.isSorted = true) :
    ∀ {members : List (String × Json)}, isSortedMembers members = true →
      isSortedMembers (addMember name value members) = true
  | [], _ => by simp [addMember, isSortedMembers, precedes, hv]
  | (other, kept) :: rest, h => by
    simp only [isSortedMembers, Bool.and_eq_true] at h
    obtain ⟨⟨hp, hk⟩, hr⟩ := h
    simp only [addMember]
    split
    · next hlt =>
      have hfirst : precedes name ((other, kept) :: rest) = true := by simpa [precedes] using hlt
      simp only [isSortedMembers, hfirst, hv, hp, hk, hr, Bool.and_self]
    · next hnlt =>
      split
      · simp [isSortedMembers, hp, hk, hr]
      · next hne =>
        have hlt := lt_of_not_lt_of_ne hnlt hne
        simp [isSortedMembers, precedes_addMember hlt hp, hk, isSortedMembers_addMember hv hr]

mutual

/-- Sorting a readable document leaves nothing unsorted. -/
theorem isSorted_sorted : ∀ {j : Json}, j.readable = true → j.sorted.isSorted = true
  | .null, _ | .bool _, _ | .num _, _ | .str _, _ => by simp [sorted, isSorted]
  | .arr _, h => by
    simp only [readable] at h
    simp only [sorted, isSorted, isSortedItems_sorted h]
  | .obj _, h => by
    simp only [readable] at h
    simp only [sorted, isSorted, isSortedMembers_sorted h]
  | .unreadable, h => by simp [readable] at h

theorem isSortedItems_sorted :
    ∀ {items : List Json}, readableItems items = true → isSortedItems (sortedItems items) = true
  | [], _ => rfl
  | _ :: _, h => by
    simp only [readableItems, Bool.and_eq_true] at h
    simp [sortedItems, isSortedItems, isSorted_sorted h.1, isSortedItems_sorted h.2]

theorem isSortedMembers_sorted :
    ∀ {members : List (String × Json)}, readableMembers members = true →
      isSortedMembers (sortedMembers members) = true
  | [], _ => rfl
  | (_, _) :: _, h => by
    simp only [readableMembers, Bool.and_eq_true] at h
    exact isSortedMembers_addMember (isSorted_sorted h.1) (isSortedMembers_sorted h.2)

end

mutual

/-- The documents have equal parts throughout. Numbers are equal where they are of one kind and
compare equal, so the two zeros are equal and an integer never equals a floating-point number. -/
def agrees : Json → Json → Bool
  | .null, .null => true
  | .bool a, .bool b => a = b
  | .num (.int a _), .num (.int b _) => a = b
  | .num (.float a _), .num (.float b _) => a == b
  | .str a, .str b => a = b
  | .arr a, .arr b => agreesItems a b
  | .obj a, .obj b => agreesMembers a b
  | _, _ => false

/-- The items agree one by one. -/
def agreesItems : List Json → List Json → Bool
  | [], [] => true
  | a :: as, b :: bs => a.agrees b && agreesItems as bs
  | _, _ => false

/-- The members agree one by one, names included. -/
def agreesMembers : List (String × Json) → List (String × Json) → Bool
  | [], [] => true
  | (n, a) :: as, (m, b) :: bs => n = m && a.agrees b && agreesMembers as bs
  | _, _ => false

end

/-- A finite number equals itself. -/
theorem beq_self_of_isFinite {x : Float} (finite : x.isFinite = true) : (x == x) = true := by
  have finite : x.toModel.unpack.isFinite = true := finite
  show x.toModel.unpack.beq x.toModel.unpack = true
  cases unpacked : x.toModel.unpack with
  | infinity s | notANumber =>
    rw [unpacked] at finite
    exact nomatch finite
  | zero s => cases s <;> rfl
  | finite s m e pos =>
    have exponents : compare e e = .eq := Std.ReflCmp.compare_self
    have mantissas : compare m m = .eq := Std.ReflCmp.compare_self
    cases s with
    | negative =>
      show (some ((compare e e).then (compare m m)).swap == some Ordering.eq) = true
      rw [exponents, mantissas]
      rfl
    | positive =>
      show (some ((compare e e).then (compare m m)) == some Ordering.eq) = true
      rw [exponents, mantissas]
      rfl

mutual

/-- A sorted document agrees with itself, as every number in it is finite. -/
theorem agrees_self : ∀ {j : Json}, j.isSorted = true → j.agrees j = true
  | .null, _ => rfl
  | .bool _, _ | .num (.int _ _), _ | .str _, _ => by simp [agrees]
  | .num (.float _ finite), _ => by simp only [agrees, beq_self_of_isFinite finite]
  | .arr _, h => by
    simp only [isSorted] at h
    simp only [agrees, agreesItems_self h]
  | .obj _, h => by
    simp only [isSorted] at h
    simp only [agrees, agreesMembers_self h]
  | .unreadable, h => by simp [isSorted] at h

theorem agreesItems_self :
    ∀ {items : List Json}, isSortedItems items = true → agreesItems items items = true
  | [], _ => rfl
  | _ :: _, h => by
    simp only [isSortedItems, Bool.and_eq_true] at h
    simp [agreesItems, agrees_self h.1, agreesItems_self h.2]

theorem agreesMembers_self :
    ∀ {members : List (String × Json)}, isSortedMembers members = true →
      agreesMembers members members = true
  | [], _ => rfl
  | (_, _) :: _, h => by
    simp only [isSortedMembers, Bool.and_eq_true] at h
    simp [agreesMembers, agrees_self h.1.2, agreesMembers_self h.2]

end

end Json

/-- An arbitrary JSON value: a readable document whose objects are sorted and repeat no name. -/
structure Value where
  json : Json
  isSorted : json.isSorted = true

namespace Value

/-- The value that a document stands for, if it is readable. -/
def ofJson? (j : Json) : Option Value :=
  if h : j.readable = true then some ⟨j.sorted, Json.isSorted_sorted h⟩ else none

/-- The value null. -/
def null : Value := ⟨.null, rfl⟩

/-- A text as a value. -/
def ofString (s : String) : Value := ⟨.str s, rfl⟩

/-- An array of values. -/
def ofList (values : List Value) : Value :=
  ⟨.arr (values.map (·.json)), by
    induction values with
    | nil => rfl
    | cons v vs ih => simp_all [Json.isSorted, Json.isSortedItems, v.isSorted]⟩

/-- The text of a value that is one. -/
def text? (v : Value) : Option String :=
  match v.json with
  | .str s => some s
  | _ => none

/-- The value is null. -/
def isNull (v : Value) : Bool :=
  match v.json with
  | .null => true
  | _ => false

/-- The values are equal. -/
def agrees (a b : Value) : Bool := a.json.agrees b.json

/-- A value equals itself. -/
theorem agrees_self (v : Value) : v.agrees v = true := Json.agrees_self v.isSorted

@[ext]
theorem ext {a b : Value} (h : a.json = b.json) : a = b := by
  cases a; cases b; cases h; rfl

end Value

end Redraw
