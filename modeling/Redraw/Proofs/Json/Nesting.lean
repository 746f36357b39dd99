import Redraw.Json.Reader
import Redraw.Json.Value

/-!
# How deep documents nest

The reader cuts a document off at a depth, and sorting a document for a free value never makes it
deeper. A document that is sorted is readable and stays as it is when it is sorted again.
-/

namespace Redraw.Json

mutual

/-- How many arrays and objects enclose the innermost part of the document. -/
def depth : Json → Nat
  | .arr items => depthItems items + 1
  | .obj members => depthMembers members + 1
  | _ => 0

/-- The depth of the deepest item. -/
def depthItems : List Json → Nat
  | [] => 0
  | item :: rest => max item.depth (depthItems rest)

/-- The depth of the deepest member. -/
def depthMembers : List (String × Json) → Nat
  | [] => 0
  | (_, value) :: rest => max value.depth (depthMembers rest)

end

/-- An item is no deeper than all items together. -/
theorem depth_le_depthItems {items : List Json} {item : Json} (inside : item ∈ items) :
    item.depth ≤ depthItems items := by
  induction items with
  | nil => cases inside
  | cons first rest ih =>
    simp only [depthItems]
    obtain rfl | later := List.mem_cons.1 inside
    · omega
    · have := ih later
      omega

/-- A member is no deeper than all members together. -/
theorem depth_le_depthMembers {members : List (String × Json)} {name : String} {value : Json}
    (inside : (name, value) ∈ members) : value.depth ≤ depthMembers members := by
  induction members with
  | nil => cases inside
  | cons first rest ih =>
    obtain ⟨other, kept⟩ := first
    simp only [depthMembers]
    obtain same | later := List.mem_cons.1 inside
    · cases same
      omega
    · have := ih later
      omega

/-- Items are as shallow as each of them. -/
theorem depthItems_le {items : List Json} {bound : Nat} (all : ∀ item ∈ items, item.depth ≤ bound) :
    depthItems items ≤ bound := by
  induction items with
  | nil => exact Nat.zero_le bound
  | cons first rest ih =>
    have head := all first List.mem_cons_self
    have tail := ih fun item later => all item (List.mem_cons_of_mem first later)
    simp only [depthItems]
    omega

/-- Members are as shallow as each of them. -/
theorem depthMembers_le {members : List (String × Json)} {bound : Nat}
    (all : ∀ member ∈ members, member.2.depth ≤ bound) : depthMembers members ≤ bound := by
  induction members with
  | nil => exact Nat.zero_le bound
  | cons first rest ih =>
    have head := all first List.mem_cons_self
    have tail := ih fun member later => all member (List.mem_cons_of_mem first later)
    simp only [depthMembers]
    omega

/-! ## Cutting -/

mutual

/-- Where nothing is too deep, nothing is cut off. -/
theorem cut_of_depth_le : ∀ {j : Json} {limit : Nat}, j.depth ≤ limit → j.cut limit = j
  | .null, limit, _ | .bool _, limit, _ | .num _, limit, _ | .str _, limit, _
  | .unreadable, limit, _ => by cases limit <;> rfl
  | .arr _, 0, shallow => by simp [depth] at shallow
  | .arr _, limit + 1, shallow => by
    simp only [depth] at shallow
    rw [cut, cutItems_of_depth_le (by omega)]
  | .obj _, 0, shallow => by simp [depth] at shallow
  | .obj _, limit + 1, shallow => by
    simp only [depth] at shallow
    rw [cut, cutMembers_of_depth_le (by omega)]

theorem cutItems_of_depth_le :
    ∀ {items : List Json} {limit : Nat}, depthItems items ≤ limit → cutItems limit items = items
  | [], _, _ => rfl
  | _ :: _, _, shallow => by
    simp only [depthItems] at shallow
    rw [cutItems, cut_of_depth_le (by omega), cutItems_of_depth_le (by omega)]

theorem cutMembers_of_depth_le : ∀ {members : List (String × Json)} {limit : Nat},
    depthMembers members ≤ limit → cutMembers limit members = members
  | [], _, _ => rfl
  | (_, _) :: _, _, shallow => by
    simp only [depthMembers] at shallow
    rw [cutMembers, cut_of_depth_le (by omega), cutMembers_of_depth_le (by omega)]

end

mutual

/-- What is cut at a limit is no deeper. -/
theorem depth_cut : ∀ (limit : Nat) (j : Json), (j.cut limit).depth ≤ limit
  | limit, .null | limit, .bool _ | limit, .num _ | limit, .str _ | limit, .unreadable => by
    cases limit <;> exact Nat.zero_le _
  | 0, .arr _ => Nat.zero_le 0
  | limit + 1, .arr items => Nat.succ_le_succ (depthItems_cut limit items)
  | 0, .obj _ => Nat.zero_le 0
  | limit + 1, .obj members => Nat.succ_le_succ (depthMembers_cut limit members)

theorem depthItems_cut : ∀ (limit : Nat) (items : List Json), depthItems (cutItems limit items) ≤ limit
  | _, [] => Nat.zero_le _
  | limit, item :: rest => Nat.max_le.2 ⟨depth_cut limit item, depthItems_cut limit rest⟩

theorem depthMembers_cut : ∀ (limit : Nat) (members : List (String × Json)),
    depthMembers (cutMembers limit members) ≤ limit
  | _, [] => Nat.zero_le _
  | limit, (_, value) :: rest => Nat.max_le.2 ⟨depth_cut limit value, depthMembers_cut limit rest⟩

end

/-- What is read from a text is no deeper than the limit. -/
theorem depth_of_read {text : String} {j : Json} (found : read? text = some j) :
    j.depth ≤ nestingLimit := by
  unfold read? at found
  dsimp only at found
  split at found
  · split at found
    · cases found
      exact depth_cut nestingLimit _
    · cases found
  · cases found

/-- The document is readable and nests few levels. -/
structure Slight (j : Json) : Prop where
  readable : j.readable = true
  depth_le : j.depth ≤ 4

/-- A slight document is far from the limit, so reading it cuts nothing. -/
theorem Slight.depth_le_limit {j : Json} (slight : j.Slight) : j.depth ≤ nestingLimit :=
  Nat.le_trans slight.depth_le (by decide)

/-- A number is readable and encloses nothing, and neither does the null that may stand for it. -/
theorem ofFloat_leaf (x : Float) : (ofFloat x).readable = true ∧ (ofFloat x).depth = 0 := by
  unfold ofFloat
  split <;> exact ⟨rfl, rfl⟩

/-! ## Sorting -/

/-- Adding a member makes members no deeper than they and the new one were. -/
theorem depthMembers_addMember (name : String) (value : Json) (members : List (String × Json)) :
    depthMembers (addMember name value members) ≤ max value.depth (depthMembers members) := by
  induction members with
  | nil => exact Nat.le_refl _
  | cons first rest ih =>
    obtain ⟨other, kept⟩ := first
    unfold addMember
    split
    · exact Nat.le_refl _
    · split
      · exact Nat.le_max_right _ _
      · simp only [depthMembers]
        omega

mutual

/-- Sorting drops members and makes nothing deeper. -/
theorem depth_sorted : ∀ j : Json, j.sorted.depth ≤ j.depth
  | .null | .bool _ | .num _ | .str _ | .unreadable => Nat.le_refl _
  | .arr items => Nat.succ_le_succ (depthItems_sorted items)
  | .obj members => Nat.succ_le_succ (depthMembers_sorted members)

theorem depthItems_sorted : ∀ items : List Json, depthItems (sortedItems items) ≤ depthItems items
  | [] => Nat.le_refl _
  | item :: rest => by
    have head := depth_sorted item
    have tail := depthItems_sorted rest
    simp only [sortedItems, depthItems]
    omega

theorem depthMembers_sorted :
    ∀ members : List (String × Json), depthMembers (sortedMembers members) ≤ depthMembers members
  | [] => Nat.le_refl _
  | (name, value) :: rest => by
    have head := depth_sorted value
    have tail := depthMembers_sorted rest
    have added := depthMembers_addMember name value.sorted (sortedMembers rest)
    simp only [sortedMembers, depthMembers]
    omega

end

/-- Items are readable if each of them is. -/
theorem readableItems_of_all {items : List Json} (all : ∀ item ∈ items, item.readable = true) :
    readableItems items = true := by
  induction items with
  | nil => rfl
  | cons item rest ih =>
    rw [readableItems, all item List.mem_cons_self,
      ih fun next later => all next (List.mem_cons_of_mem item later)]
    rfl

/-- Members are readable if each of them is. -/
theorem readableMembers_of_all {members : List (String × Json)}
    (all : ∀ member ∈ members, member.2.readable = true) : readableMembers members = true := by
  induction members with
  | nil => rfl
  | cons member rest ih =>
    rw [readableMembers, all member List.mem_cons_self,
      ih fun next later => all next (List.mem_cons_of_mem member later)]
    rfl

mutual

/-- A sorted document is readable. -/
theorem readable_of_isSorted : ∀ {j : Json}, j.isSorted = true → j.readable = true
  | .null, _ | .bool _, _ | .num _, _ | .str _, _ => rfl
  | .arr _, sorted => by
    simp only [isSorted] at sorted
    exact readableItems_of_isSorted sorted
  | .obj _, sorted => by
    simp only [isSorted] at sorted
    exact readableMembers_of_isSorted sorted
  | .unreadable, sorted => by cases sorted

theorem readableItems_of_isSorted :
    ∀ {items : List Json}, isSortedItems items = true → readableItems items = true
  | [], _ => rfl
  | _ :: _, sorted => by
    simp only [isSortedItems, Bool.and_eq_true] at sorted
    simp only [readableItems, Bool.and_eq_true]
    exact ⟨readable_of_isSorted sorted.1, readableItems_of_isSorted sorted.2⟩

theorem readableMembers_of_isSorted :
    ∀ {members : List (String × Json)}, isSortedMembers members = true →
      readableMembers members = true
  | [], _ => rfl
  | (_, _) :: _, sorted => by
    simp only [isSortedMembers, Bool.and_eq_true] at sorted
    simp only [readableMembers, Bool.and_eq_true]
    exact ⟨readable_of_isSorted sorted.1.2, readableMembers_of_isSorted sorted.2⟩

end

/-- A name that comes before the others is put in front of them. -/
theorem addMember_of_precedes {name : String} {value : Json} {members : List (String × Json)}
    (first : precedes name members = true) :
    addMember name value members = (name, value) :: members := by
  cases members with
  | nil => rfl
  | cons member rest => exact if_pos (of_decide_eq_true first)

mutual

/-- Sorting leaves a sorted document as it is. -/
theorem sorted_of_isSorted : ∀ {j : Json}, j.isSorted = true → j.sorted = j
  | .null, _ | .bool _, _ | .num _, _ | .str _, _ | .unreadable, _ => rfl
  | .arr _, sorted => by
    simp only [isSorted] at sorted
    rw [Json.sorted, sortedItems_of_isSorted sorted]
  | .obj _, sorted => by
    simp only [isSorted] at sorted
    rw [Json.sorted, sortedMembers_of_isSorted sorted]

theorem sortedItems_of_isSorted :
    ∀ {items : List Json}, isSortedItems items = true → sortedItems items = items
  | [], _ => rfl
  | _ :: _, sorted => by
    simp only [isSortedItems, Bool.and_eq_true] at sorted
    rw [sortedItems, sorted_of_isSorted sorted.1, sortedItems_of_isSorted sorted.2]

theorem sortedMembers_of_isSorted :
    ∀ {members : List (String × Json)}, isSortedMembers members = true →
      sortedMembers members = members
  | [], _ => rfl
  | (_, _) :: _, sorted => by
    simp only [isSortedMembers, Bool.and_eq_true] at sorted
    rw [sortedMembers, sorted_of_isSorted sorted.1.2, sortedMembers_of_isSorted sorted.2,
      addMember_of_precedes sorted.1.1]

end

end Redraw.Json

namespace Redraw

/-- A free value stands for itself. -/
theorem Value.ofJson?_json (v : Value) : Value.ofJson? v.json = some v := by
  have readable := Json.readable_of_isSorted v.isSorted
  unfold ofJson?
  rw [dif_pos readable]
  exact congrArg some (Value.ext (Json.sorted_of_isSorted v.isSorted))

/-- A value is no deeper than the document it was read from. -/
theorem Value.depth_of_ofJson? {j : Json} {v : Value} (found : Value.ofJson? j = some v) :
    v.json.depth ≤ j.depth := by
  unfold ofJson? at found
  split at found
  · cases found
    exact Json.depth_sorted j
  · cases found

end Redraw
