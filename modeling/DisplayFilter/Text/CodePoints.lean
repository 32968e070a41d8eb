/-!
# Tables of code points

Character classes and mappings that follow no short rule are tables of *runs*: code points from a
first to a last one in equal steps.

* `CodeRun` — one run, `inRuns` — membership of a character in a table of runs;
* `ShiftRun` — a run of characters that are all mapped by adding the same number;
* `shifted?` — the image of a character under a table of such runs.
-/

namespace DisplayFilter.Text

/-- **A run** `first, first + step, …, last` of code points. -/
structure CodeRun where
  first : Nat
  last : Nat
  step : Nat
  deriving DecidableEq, Repr

/-- Whether a code point is in a run. -/
def CodeRun.contains (r : CodeRun) (n : Nat) : Bool :=
  r.first ≤ n && n ≤ r.last && (n - r.first) % r.step == 0

/-- Whether a character is in one of some runs. -/
def inRuns (runs : List CodeRun) (c : Char) : Bool :=
  runs.any (·.contains c.toNat)

/-- **A run of shifted characters:** each code point `n` of the run is mapped to `n + offset`. -/
structure ShiftRun where
  first : Nat
  last : Nat
  step : Nat
  offset : Int
  deriving Repr

/-- The image of a code point of a run. -/
def ShiftRun.image? (r : ShiftRun) (n : Nat) : Option Nat :=
  if (CodeRun.mk r.first r.last r.step).contains n then some (n + r.offset).toNat else none

/-- The image of a character under the first run that has it. -/
def shifted? (runs : List ShiftRun) (c : Char) : Option Char :=
  (runs.findSome? (·.image? c.toNat)).map Char.ofNat

end DisplayFilter.Text
