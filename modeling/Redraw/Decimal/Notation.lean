import Redraw.Decimal.Shortest

/-!
# Numbers written in decimal

Numbers are written with the fewest digits that identify them: positionally, with a point, from
`0.00001` up to sixteen digits before the point, and otherwise with one digit before the point and
a signed exponent.
-/

namespace Redraw.Decimal

/-- The decimal digits of a natural number. -/
def naturalText (n : Nat) : List Char := Nat.toDigits 10 n

/-- A decimal whose leading digit stands for `10 ^ lead`, written positionally. -/
def positional (digits : List Char) (lead : Int) : List Char :=
  if lead < 0 then ['0', '.'] ++ List.replicate (-lead - 1).toNat '0' ++ digits
  else
    let before := lead.toNat + 1
    let whole := digits.take before ++ List.replicate (before - digits.length) '0'
    let fraction := digits.drop before
    whole ++ '.' :: (if fraction.isEmpty then ['0'] else fraction)

/-- A decimal whose leading digit stands for `10 ^ lead`, written with an exponent. -/
def scientific (digits : List Char) (lead : Int) : List Char :=
  let fraction := digits.drop 1
  digits.take 1 ++ (if fraction.isEmpty then [] else '.' :: fraction)
    ++ ['e', if lead < 0 then '-' else '+'] ++ naturalText lead.natAbs

/-- A decimal is written positionally while its leading digit stands for `10 ^ (-5)` to `10 ^ 15`. -/
def Digits.text (d : Digits) : List Char :=
  let digits := naturalText d.digits
  let lead : Int := digits.length - 1 + d.exponent
  if -5 ≤ lead && lead < 16 then positional digits lead else scientific digits lead

/-- The magnitude with the fewest digits that identify it. -/
def Magnitude.text (m : Magnitude) : List Char :=
  if m.mantissa = 0 then ['0', '.', '0'] else m.shortest.text

/-- A finite number in decimal. -/
def floatText (x : Float) : List Char :=
  (if isNegative x then ['-'] else []) ++ (Magnitude.ofFloat x).text

/-- An integer in decimal. -/
def integerText (i : Int) : List Char :=
  (if i < 0 then ['-'] else []) ++ naturalText i.natAbs

end Redraw.Decimal
