/-!
# Runs of code points

A character class beyond ASCII is a list of runs. A run goes from its first to its last code point
in equal steps, so that alternating upper-case and lower-case letters take one entry.
-/

namespace TaskBuilders.Text

/-- The code points `first`, `first + step`, … up to `last`. -/
structure CodeRange where
  first : Nat
  last : Nat
  step : Nat

/-- Whether a code point lies on the run. -/
def CodeRange.contains (r : CodeRange) (n : Nat) : Bool :=
  r.first ≤ n && n ≤ r.last && (n - r.first) % r.step == 0

/-- Whether a character lies on one of the runs. -/
def onRuns (runs : List CodeRange) (c : Char) : Bool :=
  runs.any (·.contains c.toNat)

end TaskBuilders.Text
