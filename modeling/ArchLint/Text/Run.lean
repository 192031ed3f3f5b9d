/-! # Runs of code points

The tables of character properties are lists of runs: equally spaced code points from a first to a
last one.

* `Run`, `Run.covers` — one run and its members.
* `anyCovers` — membership in a list of runs.
-/

namespace ArchLint.Text

/-- The code points `first`, `first + step`, … up to `last`. -/
structure Run where
  first : Nat
  last : Nat
  step : Nat
deriving DecidableEq, Repr

/-- The code point `n` is a member of the run. -/
def Run.covers (r : Run) (n : Nat) : Bool :=
  r.first ≤ n && n ≤ r.last && (n - r.first) % r.step == 0

/-- The code point `n` is a member of one of the runs. -/
def anyCovers (runs : List Run) (n : Nat) : Bool :=
  runs.any (·.covers n)

end ArchLint.Text
