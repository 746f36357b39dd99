import Redraw.Decimal.Notation
import Redraw.Json.Basic

/-!
# Documents as text

`compact` writes a document without any blanks, `pretty` on indented lines of two blanks a level.
In texts only quotes, backslashes and control characters are escaped.
-/

namespace Redraw

/-- A number in decimal. A floating-point number always shows a point or an exponent. -/
def Number.chars : Number → List Char
  | .int i _ => Decimal.integerText i
  | .float x _ => Decimal.floatText x

namespace Json

/-- A hexadecimal digit in lower case. -/
def hexDigit (n : Nat) : Char := Nat.digitChar (n % 16)

/-- How one character is written between quotes. -/
def escapeChar (c : Char) : List Char :=
  if c = '"' then ['\\', '"']
  else if c = '\\' then ['\\', '\\']
  else if c = '\x08' then ['\\', 'b']
  else if c = '\t' then ['\\', 't']
  else if c = '\n' then ['\\', 'n']
  else if c = '\x0c' then ['\\', 'f']
  else if c = '\x0d' then ['\\', 'r']
  else if c.toNat < 0x20 then ['\\', 'u', '0', '0', hexDigit (c.toNat / 16), hexDigit c.toNat]
  else [c]

/-- A text between quotes. -/
def quotedChars (s : String) : List Char := '"' :: (s.toList.flatMap escapeChar ++ ['"'])

mutual

/-- The document without blanks. -/
def compactChars : Json → List Char
  | .null => ['n', 'u', 'l', 'l']
  | .bool true => ['t', 'r', 'u', 'e']
  | .bool false => ['f', 'a', 'l', 's', 'e']
  | .num n => n.chars
  | .str s => quotedChars s
  | .arr items => '[' :: compactItems items
  | .obj members => '\x7b' :: compactMembers members
  | .unreadable => ['n', 'u', 'l', 'l']

/-- The items of an array with the closing bracket. -/
def compactItems : List Json → List Char
  | [] => [']']
  | item :: rest => item.compactChars ++ compactMoreItems rest

/-- The items of an array after the first one, with the closing bracket. -/
def compactMoreItems : List Json → List Char
  | [] => [']']
  | item :: rest => ',' :: (item.compactChars ++ compactMoreItems rest)

/-- The members of an object with the closing brace. -/
def compactMembers : List (String × Json) → List Char
  | [] => ['\x7d']
  | (name, value) :: rest =>
    quotedChars name ++ ':' :: (value.compactChars ++ compactMoreMembers rest)

/-- The members of an object after the first one, with the closing brace. -/
def compactMoreMembers : List (String × Json) → List Char
  | [] => ['\x7d']
  | (name, value) :: rest =>
    ',' :: (quotedChars name ++ ':' :: (value.compactChars ++ compactMoreMembers rest))

end

/-- The document without blanks. -/
def compact (j : Json) : String := String.ofList j.compactChars

/-- A new line at an indentation level. -/
def newLine (level : Nat) : List Char := '\n' :: List.replicate (2 * level) ' '

mutual

/-- The document on indented lines, of which the first is already indented. -/
def prettyChars (level : Nat) : Json → List Char
  | .arr [] => ['[', ']']
  | .arr (item :: rest) =>
    '[' :: (newLine (level + 1) ++ (item.prettyChars (level + 1) ++ prettyItems level rest))
  | .obj [] => ['\x7b', '\x7d']
  | .obj ((name, value) :: rest) =>
    '\x7b' :: (newLine (level + 1) ++ (quotedChars name ++ ':' :: ' ' ::
      (value.prettyChars (level + 1) ++ prettyMembers level rest)))
  | .null => ['n', 'u', 'l', 'l']
  | .bool true => ['t', 'r', 'u', 'e']
  | .bool false => ['f', 'a', 'l', 's', 'e']
  | .num n => n.chars
  | .str s => quotedChars s
  | .unreadable => ['n', 'u', 'l', 'l']

/-- The items of an array after the first one, with the closing bracket. -/
def prettyItems (level : Nat) : List Json → List Char
  | [] => newLine level ++ [']']
  | item :: rest =>
    ',' :: (newLine (level + 1) ++ (item.prettyChars (level + 1) ++ prettyItems level rest))

/-- The members of an object after the first one, with the closing brace. -/
def prettyMembers (level : Nat) : List (String × Json) → List Char
  | [] => newLine level ++ ['\x7d']
  | (name, value) :: rest =>
    ',' :: (newLine (level + 1) ++ (quotedChars name ++ ':' :: ' ' ::
      (value.prettyChars (level + 1) ++ prettyMembers level rest)))

end

/-- The document on indented lines. -/
def pretty (j : Json) : String := String.ofList (j.prettyChars 0)

end Json

end Redraw
