import Redraw.Decimal.Literal
import Redraw.Json.Basic

/-!
# Reading numbers and texts

The scanners for the leaves of a document. Each takes the characters from where the leaf starts and
gives back what it read with the characters after it, or nothing where the leaf is malformed.
-/

namespace Redraw.Json

open Decimal (Literal)

/-- Blanks, tabs and line ends may stand between the parts of a document. -/
def isBlank (c : Char) : Bool := c = ' ' || c = '\t' || c = '\n' || c = '\x0d'

/-- The characters from the first one on that is not blank. -/
def skipBlanks (s : List Char) : List Char := s.dropWhile isBlank

/-- The value of a decimal digit. -/
def digitValue (c : Char) : Nat := c.toNat - '0'.toNat

/-- The leading decimal digits and what follows them. -/
def scanDigits : List Char → List Nat × List Char
  | [] => ([], [])
  | c :: rest =>
    if c.isDigit then
      let (digits, after) := scanDigits rest
      (digitValue c :: digits, after)
    else ([], c :: rest)

/-- The digits of the whole part: at least one, and no zero in front of others. -/
def scanWhole (s : List Char) : Option (List Nat × List Char) :=
  match scanDigits s with
  | ([], _) => none
  | (0 :: _ :: _, _) => none
  | (digits, rest) => some (digits, rest)

/-- A point and at least one digit, or nothing. -/
def scanFraction : List Char → Option (Option (List Nat) × List Char)
  | '.' :: s =>
    match scanDigits s with
    | ([], _) => none
    | (digits, rest) => some (some digits, rest)
  | s => some (none, s)

/-- The sign of an exponent and what follows it. -/
def scanSign : List Char → Bool × List Char
  | '+' :: s => (false, s)
  | '-' :: s => (true, s)
  | s => (false, s)

/-- The number that decimal digits spell. -/
def spelled (digits : List Nat) : Nat := digits.foldl (fun n d => n * 10 + d) 0

/-- The digits of an exponent, at least one, after its mark. -/
def scanPower (s : List Char) : Option (Int × List Char) :=
  let (negative, s) := scanSign s
  match scanDigits s with
  | ([], _) => none
  | (digits, rest) => some (if negative then -spelled digits else spelled digits, rest)

/-- An exponent, or nothing. -/
def scanExponent : List Char → Option (Option Int × List Char)
  | 'e' :: s => (scanPower s).map fun (power, rest) => (some power, rest)
  | 'E' :: s => (scanPower s).map fun (power, rest) => (some power, rest)
  | s => some (none, s)

/-- The magnitude of a number literal. -/
def scanMagnitude (negative : Bool) (s : List Char) : Option (Literal × List Char) := do
  let (whole, s) ← scanWhole s
  let (fraction, s) ← scanFraction s
  let (exponent, s) ← scanExponent s
  return (⟨negative, whole, fraction, exponent⟩, s)

/-- A number literal. -/
def scanNumber : List Char → Option (Literal × List Char)
  | '-' :: s => scanMagnitude true s
  | s => scanMagnitude false s

/-- The number that a literal names, unreadable where it is too large. -/
def ofLiteral (l : Literal) : Json :=
  match l.toInteger? with
  | some i =>
    if fits : -0x8000000000000000 ≤ i ∧ i < 0x10000000000000000 then .num (.int i fits)
    else .unreadable
  | none =>
    match l.toFloat? with
    | some x => if finite : x.isFinite = true then .num (.float x finite) else .unreadable
    | none => .unreadable

/-- The value of a hexadecimal digit of either case. -/
def hexValue? (c : Char) : Option Nat :=
  if c.isDigit then some (digitValue c)
  else if 'a' ≤ c && c ≤ 'f' then some (c.toNat - 'a'.toNat + 10)
  else if 'A' ≤ c && c ≤ 'F' then some (c.toNat - 'A'.toNat + 10)
  else none

/-- The 16-bit unit that four hexadecimal digits spell. -/
def unitValue? (a b c d : Char) : Option Nat := do
  return (((← hexValue? a) * 16 + (← hexValue? b)) * 16 + (← hexValue? c)) * 16 + (← hexValue? d)

/-- The character that a letter after a backslash stands for. -/
def escaped? : Char → Option Char
  | '"' => some '"'
  | '\\' => some '\\'
  | '/' => some '/'
  | 'b' => some '\x08'
  | 'f' => some '\x0c'
  | 'n' => some '\n'
  | 'r' => some '\x0d'
  | 't' => some '\t'
  | _ => none

/-- The code points of a text up to its closing quote. Escapes may name halves of surrogate pairs;
control characters have to be escaped. -/
def scanText : List Char → Option (List Nat × List Char)
  | [] => none
  | '"' :: rest => some ([], rest)
  | '\\' :: 'u' :: a :: b :: c :: d :: rest =>
    match unitValue? a b c d, scanText rest with
    | some unit, some (units, after) => some (unit :: units, after)
    | _, _ => none
  | '\\' :: e :: rest =>
    match escaped? e, scanText rest with
    | some c, some (units, after) => some (c.toNat :: units, after)
    | _, _ => none
  | c :: rest =>
    if c.toNat < 0x20 then none
    else (scanText rest).map fun (units, after) => (c.toNat :: units, after)

/-- The unit is the first half of a surrogate pair. -/
def isLeading (unit : Nat) : Bool := 0xD800 ≤ unit && unit < 0xDC00

/-- The unit is the second half of a surrogate pair. -/
def isTrailing (unit : Nat) : Bool := 0xDC00 ≤ unit && unit < 0xE000

/-- The code point that a surrogate pair stands for. -/
def paired (leading trailing : Nat) : Nat :=
  0x10000 + (leading - 0xD800) * 0x400 + (trailing - 0xDC00)

/-- Joins the surrogate pairs of a text, which must not hold half a pair. -/
def joinPairs : List Nat → Option (List Char)
  | [] => some []
  | [unit] => if isLeading unit || isTrailing unit then none else some [Char.ofNat unit]
  | unit :: next :: rest =>
    if isLeading unit && isTrailing next then
      (joinPairs rest).map (Char.ofNat (paired unit next) :: ·)
    else if isLeading unit || isTrailing unit then none
    else (joinPairs (next :: rest)).map (Char.ofNat unit :: ·)

/-- The text that code points spell, if they spell one. -/
def textOf? (units : List Nat) : Option String := (joinPairs units).map String.ofList

/-- The text that code points spell, as a document. -/
def ofUnits (units : List Nat) : Json :=
  match textOf? units with
  | some s => .str s
  | none => .unreadable

end Redraw.Json
