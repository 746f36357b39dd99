/-!
# JSON documents

A `Json` keeps what a document says in the order in which it says it: the members of an object stay
as written, repeated names included. Integers of 64 bits and floating-point numbers are different
values, and a floating-point number in a document is always finite.
-/

namespace Redraw

/-- A number of a document: an integer that fits in 64 bits, signed or unsigned, or a finite
floating-point number. -/
inductive Number where
  | int (i : Int) (fits : -0x8000000000000000 ≤ i ∧ i < 0x10000000000000000)
  | float (x : Float) (finite : x.isFinite = true)
deriving DecidableEq

/-- A document. `unreadable` stands for a part that is well formed but names no value: a number
beyond the largest float, a text with half of a surrogate pair, or nesting beyond the limit. A
reader that skips such a part need not notice it. -/
inductive Json where
  | null
  | bool (b : Bool)
  | num (n : Number)
  | str (s : String)
  | arr (items : List Json)
  | obj (members : List (String × Json))
  | unreadable

namespace Json

instance : Inhabited Json := ⟨.null⟩

/-- The integer as a document. -/
def ofUInt64 (n : UInt64) : Json :=
  .num (.int n.toNat ⟨by omega, by have := n.toNat_lt; omega⟩)

/-- The integer as a document. -/
def ofUInt32 (n : UInt32) : Json :=
  .num (.int n.toNat ⟨by omega, by have := n.toNat_lt; omega⟩)

/-- The integer as a document. -/
def ofUInt8 (n : UInt8) : Json :=
  .num (.int n.toNat ⟨by omega, by have := n.toNat_lt; omega⟩)

/-- The integer as a document. -/
def ofInt64 (n : Int64) : Json :=
  .num (.int n.toInt ⟨by have := n.le_toInt; omega, by have := n.toInt_lt; omega⟩)

/-- The number as a document. JSON has no infinities and no not-a-number, so these become null. -/
def ofFloat (x : Float) : Json :=
  if finite : x.isFinite = true then .num (.float x finite) else .null

/-- A text as a document, null where there is none. -/
def ofString? : Option String → Json
  | some s => .str s
  | none => .null

mutual

/-- Every part of the document names a value. -/
def readable : Json → Bool
  | .unreadable => false
  | .arr items => readableItems items
  | .obj members => readableMembers members
  | _ => true

/-- Every item is readable. -/
def readableItems : List Json → Bool
  | [] => true
  | item :: rest => item.readable && readableItems rest

/-- Every member is readable. -/
def readableMembers : List (String × Json) → Bool
  | [] => true
  | (_, value) :: rest => value.readable && readableMembers rest

end

mutual

/-- Marks as unreadable what is nested more than `limit` deep. -/
def cut : (limit : Nat) → Json → Json
  | 0, .arr _ => .unreadable
  | 0, .obj _ => .unreadable
  | limit + 1, .arr items => .arr (cutItems limit items)
  | limit + 1, .obj members => .obj (cutMembers limit members)
  | _, other => other

/-- `cut` for the items of an array. -/
def cutItems (limit : Nat) : List Json → List Json
  | [] => []
  | item :: rest => item.cut limit :: cutItems limit rest

/-- `cut` for the members of an object. -/
def cutMembers (limit : Nat) : List (String × Json) → List (String × Json)
  | [] => []
  | (name, value) :: rest => (name, value.cut limit) :: cutMembers limit rest

end

end Json

end Redraw
