/-!
# Exact binary64 numbers

Numbers in filters and records are IEEE 754 binary64 values. Here such a value is exact: a finite
one is a whole number of *units*, a unit being the smallest positive value `2 ^ -1074`, so that
comparing is comparing integers and rounding is one division. No run-time floating-point
operation is involved.

* `Binary64` — a finite value with its sign, an infinity, or no number at all;
* `roundUnits` — the multiple of a power of two nearest to a quotient, ties to even, that has at
  most 53 significant bits;
* `ofRatio`, `ofInt`, `ofDecimal` — correctly rounded values of a quotient, an integer and a
  decimal `digits * 10 ^ exponent`;
* `compare?` — the order of two values, none if one of them is not a number;
* `whole?` — the integer that a value is, if it is one of moderate size.
-/

namespace DisplayFilter

/-- **A binary64 datum.** `finite negative units` stands for `± units * 2 ^ -1074`; the sign of a
zero is kept. -/
inductive Binary64 where
  | nan
  | infinite (negative : Bool)
  | finite (negative : Bool) (units : Nat)
  deriving DecidableEq, Repr, Inhabited

namespace Binary64

/-- The number of units in one: a unit is `2 ^ -1074`. -/
def unitsPerOne : Nat := Nat.pow 2 1074

/-- The first magnitude that no finite value reaches, `2 ^ 1024`, in units. -/
def overflow : Nat := Nat.pow 2 2098

/-! ### Rounding -/

/-- The whole number nearest to `n / d`; of two equally near ones the even one. -/
def roundDiv (n d : Nat) : Nat :=
  let q := n / d
  let r := 2 * (n % d)
  if r < d then q else if d < r then q + 1 else q + q % 2

/-- The spacing of binary64 values around a magnitude of `q` whole units. -/
def spacing (q : Nat) : Nat :=
  Nat.pow 2 (q.log2 - 52)

/-- **Rounding to 53 bits.** The representable number of units nearest to `n / d`. -/
def roundUnits (n d : Nat) : Nat :=
  let step := spacing (n / d)
  roundDiv n (d * step) * step

/-- A magnitude with its sign; one of `2 ^ 1024` or more is infinite. -/
def ofUnits (negative : Bool) (units : Nat) : Binary64 :=
  if units < overflow then .finite negative units else .infinite negative

/-- The value nearest to `± n / d`, where `d` is not zero. -/
def ofRatio (negative : Bool) (n d : Nat) : Binary64 :=
  ofUnits negative (roundUnits (n * unitsPerOne) d)

/-- The value nearest to a natural number. -/
def ofNat (n : Nat) : Binary64 := ofRatio false n 1

/-- The value nearest to an integer. -/
def ofInt (n : Int) : Binary64 := ofRatio (n < 0) n.natAbs 1

/-- Zero. -/
def zero : Binary64 := .finite false 0

/-- One. -/
def one : Binary64 := .finite false unitsPerOne

/-- The number of decimal digits of `n`, none for zero. -/
def decimalLength (n : Nat) : Nat :=
  if n = 0 then 0 else (Nat.toDigits 10 n).length

/-- **Reading a decimal.** The value nearest to `± digits * 10 ^ exponent`. Outside of
`10 ^ -400 … 10 ^ 400` the answer is a zero or an infinity and no power is formed. -/
def ofDecimal (negative : Bool) (digits : Nat) (exponent : Int) : Binary64 :=
  let size := exponent + decimalLength digits
  if digits = 0 ∨ size < -400 then .finite negative 0
  else if 400 < size then .infinite negative
  else if 0 ≤ exponent then ofRatio negative (digits * Nat.pow 10 exponent.toNat) 1
  else ofRatio negative digits (Nat.pow 10 (-exponent).toNat)

/-! ### Order -/

/-- The signed number of units of a finite value. -/
def signedUnits (negative : Bool) (units : Nat) : Int :=
  if negative then -(units : Int) else units

/-- **Comparing.** The numeric order of two values: zeros of either sign are equal, infinities lie
at the ends, and a value that is not a number compares with nothing. -/
def compare? : Binary64 → Binary64 → Option Ordering
  | .nan, _ => none
  | _, .nan => none
  | .infinite true, .infinite true => some .eq
  | .infinite false, .infinite false => some .eq
  | .infinite true, _ => some .lt
  | .infinite false, _ => some .gt
  | .finite _ _, .infinite true => some .gt
  | .finite _ _, .infinite false => some .lt
  | .finite s m, .finite t n => some (compare (signedUnits s m) (signedUnits t n))

/-- Numeric equality, which no `nan` has with anything. -/
def numEq (x y : Binary64) : Bool :=
  x.compare? y == some .eq

/-- Numeric "at most", false as soon as one side is not a number. -/
def le (x y : Binary64) : Bool :=
  x.compare? y == some .lt || x.compare? y == some .eq

/-- Whether a value is a finite number. -/
def isFinite : Binary64 → Bool
  | .finite _ _ => true
  | _ => false

/-! ### Whole values -/

/-- The bound below which a whole value is taken as an integer. -/
def wholeBound : Nat := 9200000000000000000

/-- The integer that a value is, for whole values of magnitude below `9.2e18`. -/
def whole? : Binary64 → Option Int
  | .finite negative units =>
    if units % unitsPerOne = 0 ∧ units / unitsPerOne < wholeBound then
      some (signedUnits negative (units / unitsPerOne))
    else none
  | _ => none

/-! ### Products and quotients -/

/-- The rounded product of two finite values; an overflow is infinite. -/
def mul : Binary64 → Binary64 → Binary64
  | .finite s m, .finite t n => ofUnits (s != t) (roundUnits (m * n) unitsPerOne)
  | .infinite s, .finite t n => if n = 0 then .nan else .infinite (s != t)
  | .finite s m, .infinite t => if m = 0 then .nan else .infinite (s != t)
  | .infinite s, .infinite t => .infinite (s != t)
  | _, _ => .nan

/-- The rounded quotient of two values. -/
def div : Binary64 → Binary64 → Binary64
  | .finite s m, .finite t n =>
    if n = 0 then (if m = 0 then .nan else .infinite (s != t))
    else ofUnits (s != t) (roundUnits (m * unitsPerOne) n)
  | .infinite s, .finite t _ => .infinite (s != t)
  | .finite s _, .infinite t => .finite (s != t) 0
  | _, _ => .nan

/-- The rounded sum of two magnitudes that are not negative. -/
def addUnsigned (m n : Nat) : Binary64 :=
  ofUnits false (roundUnits (m + n) 1)

end Binary64

end DisplayFilter
