import Redraw.Wire.Decoder

/-!
# Decoding records

A record is written as an object with a member for each field, and may also be read from an array
with the values in the order of the fields. Members that belong to no field are ignored. In an
object the first fault in the order of the members is reported, and then the first field without
a member in the order of the fields; in an array everything goes by the order of the fields.
-/

namespace Redraw

/-- Where the values of the fields come from. An array gives them by position and has no place for
a field that may be left out. -/
structure Source where
  value? : String → Option Json
  byPosition : Bool
  absent : String → DecodeError

/-- How a record is put together from its fields: what each named field accepts, and the record that
their values make. -/
structure Fields (α : Type) where
  known : List (String × (Json → Except DecodeError Unit))
  build : Source → Except DecodeError α

namespace Fields

variable {α β : Type}

/-- The value at a field, or what stands for it where it is absent. -/
def field (name : String) (decode : Decoder α) (absent : Source → Except DecodeError α) :
    Fields α where
  known := [(name, fun j => (decode j).map fun _ => ())]
  build s :=
    match s.value? name with
    | some j => decode j
    | none => absent s

/-- A field that must be there. -/
def required (name : String) (decode : Decoder α) : Fields α :=
  field name decode fun s => .error (s.absent name)

/-- A field with a default. -/
def withDefault (name : String) (default : α) (decode : Decoder α) : Fields α :=
  field name decode fun _ => .ok default

/-- A field that may be null, or left out of an object. -/
def optional (name : String) (decode : Decoder α) : Fields (Option α) :=
  field name (Decoder.nullable decode) fun s =>
    if s.byPosition then .error (s.absent name) else .ok none

instance : Applicative Fields where
  pure a := { known := [], build := fun _ => .ok a }
  seq f a :=
    { known := f.known ++ (a ()).known
      build := fun s =>
        match f.build s with
        | .error e => .error e
        | .ok g => ((a ()).build s).map g }

/-- Looks at the members in their order: none may be given twice, and each field must accept what it
is given. -/
def check (known : List (String × (Json → Except DecodeError Unit))) :
    (seen : List String) → List (String × Json) → Except DecodeError Unit
  | _, [] => .ok ()
  | seen, (name, j) :: rest =>
    match known.lookup name with
    | none => check known seen rest
    | some accept =>
      if name ∈ seen then .error (.duplicateField name)
      else
        match accept j with
        | .error e => .error e
        | .ok _ => check known (name :: seen) rest

/-- The record that the members of an object make. -/
def ofMembers (f : Fields α) (members : List (String × Json)) : Except DecodeError α :=
  match check f.known [] members with
  | .error e => .error e
  | .ok _ =>
    f.build { value? := fun name => members.lookup name, byPosition := false
              absent := .missingField }

/-- A number of things. -/
def counted (n : Nat) (thing : String) : String :=
  toString n ++ " " ++ thing ++ if n = 1 then "" else "s"

/-- The record that the items of an array make. Items after the last field are an error; `held`
says that they were read before the type of the record was known. -/
def ofItems (f : Fields α) (wanted : String) (held : Bool) (items : List Json) :
    Except DecodeError α :=
  let size := f.known.length
  let source : Source :=
    { value? := fun name => (f.known.findIdx? (·.1 = name)).bind fun k => items[k]?
      byPosition := true
      absent := fun _ =>
        .invalidLength items.length (wanted ++ " with " ++ counted size "element") }
  match f.build source with
  | .error e => .error e
  | .ok a =>
    if items.length ≤ size then .ok a
    else if held then
      .error (.invalidLength items.length (counted size "element" ++ " in sequence"))
    else .error .unexpected

/-- A record from an object or an array. -/
def decode (f : Fields α) (wanted : String) (held : Bool) : Decoder α
  | .obj members => f.ofMembers members
  | .arr items => f.ofItems wanted held items
  | j => Decoder.mismatch wanted j

/-- A record of a named type from an object or an array. -/
def record (f : Fields α) (name : String) : Decoder α := f.decode ("struct " ++ name) false

end Fields

end Redraw
