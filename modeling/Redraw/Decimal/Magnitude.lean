/-!
# The exact value of a floating-point number

A finite number of 64 bits is a sign and a magnitude `mantissa * 2 ^ exponent`. Whatever has to be
exact about a number (its shortest decimal digits, its whole part) is computed from these naturals
and not by floating-point operations.
-/

namespace Redraw.Decimal

/-- The magnitude `mantissa * 2 ^ exponent`. It is `narrow` where the next magnitude below is half as
far away as the next one above, which is so at the powers of two. -/
structure Magnitude where
  mantissa : Nat
  exponent : Int
  narrow : Bool
deriving Repr, DecidableEq

/-- The magnitude of a finite number. The lowest 52 bits are the fraction, the next 11 the scale. -/
def Magnitude.ofFloat (x : Float) : Magnitude :=
  let bits := x.toBits.toNat
  let scale : Nat := bits / 0x10000000000000 % 0x800
  let fraction : Nat := bits % 0x10000000000000
  if scale = 0 then ⟨fraction, -1074, false⟩
  else ⟨0x10000000000000 + fraction, (scale : Int) - 1075, fraction = 0 && scale > 1⟩

/-- The sign bit is set, also for the zero that is written with a minus sign. -/
def isNegative (x : Float) : Bool := 0x8000000000000000 ≤ x.toBits.toNat

/-- The magnitude without its fraction. -/
def Magnitude.floor (m : Magnitude) : Nat :=
  m.mantissa * Nat.pow 2 m.exponent.toNat / Nat.pow 2 (-m.exponent).toNat

/-- The whole part of a number, rounded toward zero and kept between the ends of 64 signed bits. It
is zero where the number is not one. -/
def wholePart (x : Float) : Int :=
  if x.isNaN then 0
  else if x.isInf then (if isNegative x then -0x8000000000000000 else 0x7FFFFFFFFFFFFFFF)
  else
    let whole := (Magnitude.ofFloat x).floor
    if isNegative x then -(Nat.min whole 0x8000000000000000 : Nat)
    else (Nat.min whole 0x7FFFFFFFFFFFFFFF : Nat)

end Redraw.Decimal
