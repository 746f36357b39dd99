import Redraw.Wire.Fields

/-!
# Decoding alternatives

A value of a type with alternatives is written as the name of the alternative or, where it carries
something, as an object whose only member has that name.
-/

namespace Redraw

/-- One alternative: what its bare name means, and what its name with content means. -/
structure Variant (α : Type) where
  name : String
  bare : Except DecodeError α
  content : Decoder α

namespace Variant

variable {α β : Type}

/-- An alternative that carries nothing. As an object its member is null. -/
def unit (name : String) (a : α) : Variant α where
  name := name
  bare := .ok a
  content
    | .null => .ok a
    | j => Decoder.mismatch "unit" j

/-- An alternative that carries a value. -/
def single (name : String) (make : β → α) (decode : Decoder β) : Variant α where
  name := name
  bare := .error (.invalidType .unitVariant "newtype variant")
  content j := (decode j).map make

/-- An alternative that carries a record. Both are named in messages by `wanted`. -/
def record (name : String) (wanted : String) (fields : Fields α) : Variant α where
  name := name
  bare := .error (.invalidType .unitVariant "struct variant")
  content := fields.decode ("struct variant " ++ wanted) false

/-- The alternative of a name. -/
def find (variants : List (Variant α)) (name : String) : Except DecodeError (Variant α) :=
  match variants.find? (·.name = name) with
  | some v => .ok v
  | none => .error (.unknownVariant name (variants.map (·.name)))

/-- What the bare name of an alternative means. -/
def ofName (variants : List (Variant α)) (name : String) : Except DecodeError α :=
  match find variants name with
  | .ok v => v.bare
  | .error e => .error e

/-- One of some alternatives where only its bare name may stand. -/
def decodeName (variants : List (Variant α)) : Decoder α
  | .str name => ofName variants name
  | j => Decoder.mismatch "variant identifier" j

/-- One of some alternatives. -/
def decode (variants : List (Variant α)) : Decoder α
  | .str name => ofName variants name
  | .obj ((name, j) :: rest) =>
    match find variants name with
    | .error e => .error e
    | .ok v =>
      match v.content j with
      | .error e => .error e
      | .ok a => if rest.isEmpty then .ok a else .error .unexpected
  | _ => .error .unexpected

/-- An object without members carries as little as null. -/
def emptyAsNull : Json → Json
  | .obj [] => .null
  | j => j

/-- One of some alternatives that carry nothing, from a document that was read before its type was
known. In such a document an empty object may stand for the null that a name is written with. -/
def decodeHeld (variants : List (Variant α)) : Decoder α
  | .str name => ofName variants name
  | .obj [(name, j)] =>
    match find variants name with
    | .ok v => v.content (emptyAsNull j)
    | .error e => .error e
  | .obj _ => .error (.invalidValue .map "map with a single key")
  | j => Decoder.mismatch "string or map" j

end Variant

end Redraw
