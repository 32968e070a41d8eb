import DisplayFilter.Number.Binary64

/-!
# The shortest decimal of a binary64 value

The text of a number has the fewest significant digits that read back as the same value, and of
those the digits nearest to it. The search goes over the powers of ten just above the value, then
over the grids of one digit, two digits and so on up to seventeen; on each grid only the two
neighbours of the value can read back if any point of the grid does.

* `Decimal` — `digits * 10 ^ exponent`;
* `Tie` — which of two equally near decimals is taken;
* `exponentAbove` — the power of ten just above a magnitude;
* `nearestOnGrid?` — the better neighbour on the grid of a power of ten, if one reads back;
* `shortest` — the first hit, or the exact decimal expansion if there were none.
-/

namespace DisplayFilter

/-- A decimal number `digits * 10 ^ exponent`. -/
structure Decimal where
  digits : Nat
  exponent : Int
  deriving DecidableEq, Repr, Inhabited

/-- Which of two equally near decimals is taken: the greater one or the one with an even last
digit. -/
inductive Tie where
  | up
  | even
  deriving DecidableEq, Repr

namespace Binary64

/-- The least `p` with `units * 2 ^ -1074 < 10 ^ p`, for a magnitude that is not zero. The scale
`10 ^ 400` makes the smallest magnitude a number of many digits. -/
def exponentAbove (units : Nat) : Int :=
  (decimalLength (units * Nat.pow 10 400 / unitsPerOne) : Int) - 400

/-- The magnitude `units` as a quotient of whole numbers, in steps of `10 ^ exponent`. -/
def gridQuotient (units : Nat) (exponent : Int) : Nat × Nat :=
  if 0 ≤ exponent then (units, unitsPerOne * Nat.pow 10 exponent.toNat)
  else (units * Nat.pow 10 (-exponent).toNat, unitsPerOne)

/-- Whether a decimal reads as the magnitude `units`. -/
def readsBack (units : Nat) (d : Decimal) : Bool :=
  ofDecimal false d.digits d.exponent = .finite false units

/-- **One grid.** Of the two multiples of `10 ^ exponent` around the magnitude, the nearer one
that reads back. -/
def nearestOnGrid? (tie : Tie) (units : Nat) (exponent : Int) : Option Decimal :=
  let (n, d) := gridQuotient units exponent
  let low : Decimal := ⟨n / d, exponent⟩
  let high : Decimal := ⟨n / d + 1, exponent⟩
  let lowFirst := 2 * (n % d) < d || (2 * (n % d) == d && tie == .even && n / d % 2 == 0)
  (if lowFirst then [low, high] else [high, low]).find? (readsBack units)

/-- The exact decimal expansion of a magnitude. -/
def exactDecimal (units : Nat) : Decimal :=
  ⟨units * Nat.pow 5 1074, -1074⟩

/-- **The shortest decimal** of a magnitude; zero has the digit zero. -/
def shortest (tie : Tie) (units : Nat) : Decimal :=
  if units = 0 then ⟨0, 0⟩
  else
    let top := exponentAbove units
    ((List.range 18).findSome? fun k : Nat => nearestOnGrid? tie units (top - k)).getD
      (exactDecimal units)

end Binary64

end DisplayFilter
