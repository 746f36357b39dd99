/-!
# Sets of code points as runs

A property of characters is kept as an ascending list of runs. A run takes every `step`-th code
point between its ends, so that alternating upper and lower case letters need one run each.
-/

namespace Redraw.Text

/-- Every `step`-th code point from `first` to `last`. -/
structure Run where
  first : Nat
  last : Nat
  step : Nat
deriving Repr, DecidableEq

/-- The code point belongs to the run. -/
def Run.has (r : Run) (n : Nat) : Bool :=
  r.first ≤ n && n ≤ r.last && (n - r.first) % r.step == 0

/-- Some run of the list holds the code point. -/
def covered (runs : List Run) (n : Nat) : Bool := runs.any (·.has n)

end Redraw.Text
