import Redraw.Json.Reader
import Redraw.Json.Text
import Redraw.Json.Value
import Redraw.Wire.DecodeError

/-!
# Decoding single values

A decoder takes a document apart into a value of a type or says why it is none. The decoders here
are for the types that are written as a single literal, as an array or as any JSON at all.
-/

namespace Redraw

/-- What a document is, for an error message. -/
def Json.found : Json → Found
  | .null | .unreadable => .null
  | .bool b => .boolean b
  | .num (.int i _) => .integer i
  | .num (.float x _) => .float x
  | .str s => .string s
  | .arr _ => .sequence
  | .obj _ => .map

/-- Takes a document apart into a value of a type. -/
abbrev Decoder (α : Type) := Json → Except DecodeError α

namespace Decoder

/-- The document is not of the kind that is wanted. -/
def mismatch {α : Type} (wanted : String) (j : Json) : Except DecodeError α :=
  .error (.invalidType j.found wanted)

/-- A text. -/
def string : Decoder String
  | .str s => .ok s
  | j => mismatch "a string" j

/-- A truth value. -/
def bool : Decoder Bool
  | .bool b => .ok b
  | j => mismatch "a boolean" j

/-- An integer of a type with a bounded range. -/
def integer {α : Type} (wanted : String) (narrow? : Int → Option α) : Decoder α
  | .num (.int i _) =>
    match narrow? i with
    | some a => .ok a
    | none => .error (.invalidValue (.integer i) wanted)
  | j => mismatch wanted j

/-- An unsigned integer of 8 bits. -/
def uint8 : Decoder UInt8 :=
  integer "u8" fun i => if 0 ≤ i ∧ i < 0x100 then some (UInt8.ofNat i.toNat) else none

/-- An unsigned integer of 32 bits. -/
def uint32 : Decoder UInt32 :=
  integer "u32" fun i => if 0 ≤ i ∧ i < 0x100000000 then some (UInt32.ofNat i.toNat) else none

/-- An unsigned integer of 64 bits. -/
def uint64 : Decoder UInt64 :=
  integer "u64" fun i =>
    if 0 ≤ i ∧ i < 0x10000000000000000 then some (UInt64.ofNat i.toNat) else none

/-- A signed integer of 64 bits. -/
def int64 : Decoder Int64 :=
  integer "i64" fun i =>
    if -0x8000000000000000 ≤ i ∧ i < 0x8000000000000000 then some (Int64.ofInt i) else none

/-- A floating-point number. An integer stands for the nearest one. -/
def float : Decoder Float
  | .num (.int i _) => .ok (Float.ofInt i)
  | .num (.float x _) => .ok x
  | j => mismatch "f64" j

/-- Any JSON. -/
def value : Decoder Value := fun j =>
  match Value.ofJson? j with
  | some v => .ok v
  | none => .error .unexpected

/-- The items of an array, decoded in their order. -/
def items {α : Type} (item : Decoder α) : List Json → Except DecodeError (List α)
  | [] => .ok []
  | j :: rest =>
    match item j with
    | .error e => .error e
    | .ok a =>
      match items item rest with
      | .error e => .error e
      | .ok as => .ok (a :: as)

/-- An array. -/
def list {α : Type} (item : Decoder α) : Decoder (List α)
  | .arr js => items item js
  | j => mismatch "a sequence" j

/-- A value or null. -/
def nullable {α : Type} (decode : Decoder α) : Decoder (Option α)
  | .null => .ok none
  | j => (decode j).map some

end Decoder

/-- A type that is written as JSON and read from it. -/
class Wire (α : Type) where
  encode : α → Json
  decode : Decoder α

namespace Wire

variable {α : Type} [Wire α]

/-- A value as text without blanks. -/
def compact (a : α) : String := (encode a).compact

/-- A value as text on indented lines. -/
def pretty (a : α) : String := (encode a).pretty

/-- The value of a document. A document with an unreadable part in the way is malformed. -/
def ofJson (j : Json) : Except ReadError α :=
  match decode j with
  | .ok a => .ok a
  | .error cause => .error (if j.readable then .undecodable cause else .malformed)

/-- The value that a text spells. -/
def read (text : String) : Except ReadError α :=
  match Json.read? text with
  | some j => ofJson j
  | none => .error .malformed

end Wire

end Redraw
