import Redraw.Decimal.Magnitude

/-!
# The fewest digits that identify a number

The decimals that read back as a given number form an interval around it: from halfway to the number
below to halfway to the number above, with its ends exactly when the mantissa is even. `shortest`
goes through the decimal grids from coarse to fine and takes the first point of a grid that lies in
the interval. Where a grid has two such points it takes the nearer, and the even one of two that
are equally near. The finest grid contains the number itself, so the search always ends in a hit.
-/

namespace Redraw.Decimal

/-- An interval around a value. The value and both ends are counted in parts, of which `unit` make
one step of the grid. -/
structure Span where
  low : Nat
  value : Nat
  high : Nat
  unit : Nat
  closed : Bool

/-- The number of binary places needed to write a magnitude and the ends of its interval. -/
def Magnitude.places (m : Magnitude) : Nat := (2 - m.exponent).toNat

/-- The interval of the reals that are nearer to this magnitude than to any other. -/
def Magnitude.span (m : Magnitude) : Span :=
  let scale := Nat.pow 2 (m.exponent - 2).toNat
  { low := (4 * m.mantissa - if m.narrow then 1 else 2) * scale
    value := 4 * m.mantissa * scale
    high := (4 * m.mantissa + 2) * scale
    unit := Nat.pow 2 m.places
    closed := m.mantissa % 2 = 0 }

/-- The interval, measured in steps of `10 ^ grid`. -/
def Span.onGrid (s : Span) (grid : Int) : Span :=
  let finer := Nat.pow 10 (-grid).toNat
  { s with
    low := s.low * finer
    value := s.value * finer
    high := s.high * finer
    unit := s.unit * Nat.pow 10 grid.toNat }

/-- The grid point lies in the interval. -/
def Span.holds (s : Span) (point : Nat) : Bool :=
  let place := point * s.unit
  s.low < place && place < s.high || s.closed && (place = s.low || place = s.high)

/-- The grid point in the interval that is nearest to the value. -/
def Span.nearest (s : Span) : Option Nat :=
  let below := s.value / s.unit
  let above := below + 1
  if s.holds below then
    if s.holds above then
      match compare (2 * s.value) ((below + above) * s.unit) with
      | .lt => some below
      | .gt => some above
      | .eq => some (if below % 2 = 0 then below else above)
    else some below
  else if s.holds above then some above
  else none

/-- The decimal `digits * 10 ^ exponent`. -/
structure Digits where
  digits : Nat
  exponent : Int
deriving Repr, DecidableEq

/-- The first hit on the grids from `10 ^ (n - places)` down to `10 ^ (-places)`. -/
def Span.coarsest (s : Span) (places : Nat) : Nat → Digits
  | 0 => ⟨s.value * Nat.pow 10 places / s.unit, -places⟩
  | n + 1 =>
    let grid : Int := (n + 1 : Nat) - places
    match (s.onGrid grid).nearest with
    | some point => ⟨point, grid⟩
    | none => s.coarsest places n

/-- The decimal with the fewest digits that lies in the interval of a positive magnitude. The
coarsest grid tried is the first whose step exceeds the magnitude. -/
def Magnitude.shortest (m : Magnitude) : Digits :=
  m.span.coarsest m.places ((Nat.toDigits 10 m.floor).length + m.places)

end Redraw.Decimal
