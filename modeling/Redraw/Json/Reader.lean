import Redraw.Json.Scalars

/-!
# Reading documents

`read?` takes exactly the texts of the JSON grammar, with blanks around and between the parts. What
is well formed without naming a value is kept as unreadable, and so is what is nested more than 127
deep. The reader goes one level deeper or one item further with each unit of fuel, so the length of
the text is fuel enough.
-/

namespace Redraw.Json

/-- The object with these members. One with a name that is no text is unreadable. -/
def ofMembers (members : List (List Nat × Json)) : Json :=
  match members.mapM fun (name, value) => (textOf? name).map (·, value) with
  | some members => .obj members
  | none => .unreadable

mutual

/-- The value that the characters start with, after blanks. -/
def scanValue : (fuel : Nat) → List Char → Option (Json × List Char)
  | 0, _ => none
  | fuel + 1, s =>
    match skipBlanks s with
    | 'n' :: 'u' :: 'l' :: 'l' :: rest => some (.null, rest)
    | 't' :: 'r' :: 'u' :: 'e' :: rest => some (.bool true, rest)
    | 'f' :: 'a' :: 'l' :: 's' :: 'e' :: rest => some (.bool false, rest)
    | '"' :: rest => (scanText rest).map fun (units, rest) => (ofUnits units, rest)
    | '[' :: rest =>
      match skipBlanks rest with
      | ']' :: rest => some (.arr [], rest)
      | rest => (scanItems fuel rest).map fun (items, rest) => (.arr items, rest)
    | '\x7b' :: rest =>
      match skipBlanks rest with
      | '\x7d' :: rest => some (.obj [], rest)
      | rest => (scanMembers fuel rest).map fun (members, rest) => (ofMembers members, rest)
    | s => (scanNumber s).map fun (literal, rest) => (ofLiteral literal, rest)

/-- The items of an array, of which one at least is left, up to the closing bracket. -/
def scanItems : (fuel : Nat) → List Char → Option (List Json × List Char)
  | 0, _ => none
  | fuel + 1, s =>
    match scanValue fuel s with
    | none => none
    | some (item, rest) =>
      match skipBlanks rest with
      | ',' :: rest => (scanItems fuel rest).map fun (items, rest) => (item :: items, rest)
      | ']' :: rest => some ([item], rest)
      | _ => none

/-- The members of an object, of which one at least is left, up to the closing brace. -/
def scanMembers : (fuel : Nat) → List Char → Option (List (List Nat × Json) × List Char)
  | 0, _ => none
  | fuel + 1, s =>
    match skipBlanks s with
    | '"' :: rest =>
      match scanText rest with
      | none => none
      | some (name, rest) =>
        match skipBlanks rest with
        | ':' :: rest =>
          match scanValue fuel rest with
          | none => none
          | some (value, rest) =>
            match skipBlanks rest with
            | ',' :: rest =>
              (scanMembers fuel rest).map fun (members, rest) => ((name, value) :: members, rest)
            | '\x7d' :: rest => some ([(name, value)], rest)
            | _ => none
        | _ => none
    | _ => none

end

/-- The deepest nesting of arrays and objects that is read. -/
def nestingLimit : Nat := 127

/-- The document that a text spells, if it is well formed. -/
def read? (text : String) : Option Json :=
  let chars := text.toList
  match scanValue (chars.length + 1) chars with
  | some (j, rest) => if (skipBlanks rest).isEmpty then some (j.cut nestingLimit) else none
  | none => none

end Redraw.Json
