/-!
# The value of a number literal

A literal with a fraction or an exponent is read as a significand times a power of ten. The
significand takes the digits of the literal, first of the whole part and then of the fraction, as
long as it fits in 64 bits; the digits left out of the whole part count as places, those left out
of the fraction are dropped. Significand and power of ten are both rounded to 64-bit numbers before
they are combined, so a literal of many digits may be read as a neighbour of the nearest number.
-/

namespace Redraw.Decimal

/-- The parts of a number literal: its sign, the digits before and after the point, and the power
of ten it is scaled by. -/
structure Literal where
  negative : Bool
  whole : List Nat
  fraction : Option (List Nat)
  exponent : Option Int
deriving Repr, DecidableEq

/-- Appends the digits to a significand while it fits in 64 bits. The second component counts the
digits left out. -/
def gather (significand : Nat) : List Nat → Nat × Nat
  | [] => (significand, 0)
  | digit :: rest =>
    if significand * 10 + digit < UInt64.size then gather (significand * 10 + digit) rest
    else (significand, rest.length + 1)

/-- The number nearest to a power of ten. -/
def powerOfTen (n : Nat) : Float := Float.ofScientific 1 false n

/-- A number times a power of ten, unless the product is too large. Beyond `10 ^ 308` the power is
split in two. -/
def scaled (x : Float) (exponent : Int) : Option Float :=
  if 308 < exponent then if x == 0 then some x else none
  else if 0 ≤ exponent then
    let product := x * powerOfTen exponent.toNat
    if product.isInf then none else some product
  else if -308 ≤ exponent then some (x / powerOfTen (-exponent).toNat)
  else if -616 ≤ exponent then some (x / powerOfTen 308 / powerOfTen (-308 - exponent).toNat)
  else some 0

/-- The significand of a literal and the power of ten that goes with it. -/
def Literal.parts (l : Literal) : Nat × Int :=
  let (whole, places) := gather 0 l.whole
  let fraction := l.fraction.getD []
  let (significand, dropped) := gather whole fraction
  (significand, places - (fraction.length - dropped : Nat) + l.exponent.getD 0)

/-- The floating-point value of a literal, unless it is too large. -/
def Literal.toFloat? (l : Literal) : Option Float :=
  let (significand, exponent) := l.parts
  (scaled (Float.ofNat significand) exponent).map fun x => if l.negative then -x else x

/-- The value of a literal that is an integer of 64 bits, with or without sign. A literal with a
fraction or an exponent is none, and neither is the negative zero. -/
def Literal.toInteger? (l : Literal) : Option Int :=
  match l.fraction, l.exponent, gather 0 l.whole with
  | none, none, (magnitude, 0) =>
    if !l.negative then some magnitude
    else if 0 < magnitude && magnitude ≤ 0x8000000000000000 then some (-magnitude)
    else none
  | _, _, _ => none

end Redraw.Decimal
