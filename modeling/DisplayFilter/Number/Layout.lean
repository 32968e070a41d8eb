import DisplayFilter.Number.Shortest

/-!
# Number texts

The digits of a number are settled by `Binary64.shortest`; this file lays them out, with one layout
for each place where a number is written. Between two equally near digits filters and values take
the greater one, JSON documents the even one.

* `positional` — digits with a point and no exponent;
* `Binary64.plain` — entries of a numeric list in a filter: no exponent, no needless point;
* `Binary64.display` — values of a record: like `plain`, and `1.0` for whole values below
  `10 ^ 16`;
* `Binary64.json?` — numbers of a JSON document: an exponent outside of `10 ^ -5 … 10 ^ 16`, and
  no text at all for what is no finite number;
* `Binary64.dump` — numbers of a filter in the log: an exponent outside of `10 ^ -4 … 10 ^ 16`;
* `Binary64.fixed` — a given number of decimal places, a half going to the even neighbour.
-/

namespace DisplayFilter

/-- The decimal digits of a natural number. -/
def decimalDigits (n : Nat) : List Char :=
  Nat.toDigits 10 n

/-- The decimal text of an integer. -/
def integerText (n : Int) : String :=
  String.ofList (if n < 0 then '-' :: decimalDigits n.natAbs else decimalDigits n.natAbs)

namespace Decimal

/-- Where the point is: `d` is `0.x₁x₂… * 10 ^ d.pointPlace` with the digits `x₁x₂…`. -/
def pointPlace (d : Decimal) : Int :=
  (decimalDigits d.digits).length + d.exponent

/-- **Positional notation.** All digits in place, zeros where digits are missing. -/
def positional (d : Decimal) : List Char :=
  let digits := decimalDigits d.digits
  if 0 ≤ d.exponent then digits ++ List.replicate d.exponent.toNat '0'
  else if 0 < d.pointPlace then
    digits.take d.pointPlace.toNat ++ '.' :: digits.drop d.pointPlace.toNat
  else '0' :: '.' :: (List.replicate (-d.pointPlace).toNat '0' ++ digits)

/-- **Scientific notation.** One digit before the point and the exponent, with `plus` in front of one
that is not negative. -/
def scientific (plus : List Char) (d : Decimal) : List Char :=
  let digits := decimalDigits d.digits
  let power := d.pointPlace - 1
  let mantissa :=
    match digits with
    | [] => []
    | [x] => [x]
    | x :: more => x :: '.' :: more
  mantissa ++ 'e' :: (if power < 0 then ['-'] else plus) ++ decimalDigits power.natAbs

/-- **Of both the shorter one:** scientific notation for numbers from `10 ^ 16` on and for those with
the point at place `low` or before, and else all digits in place. A whole number keeps one decimal
place, so that it reads as a number with a fraction again. -/
def general (low : Int) (plus : List Char) (d : Decimal) : List Char :=
  if d.pointPlace ≤ low ∨ 16 < d.pointPlace then d.scientific plus
  else if 0 ≤ d.exponent then d.positional ++ ".0".toList
  else d.positional

end Decimal

namespace Binary64

/-- A text with the minus sign of a negative number. -/
def withSign (negative : Bool) (text : List Char) : String :=
  String.ofList (if negative then '-' :: text else text)

/-- **List entries.** The text of a number in a list literal. -/
def plain : Binary64 → String
  | .nan => "NaN"
  | .infinite negative => withSign negative "inf".toList
  | .finite negative units => withSign negative (shortest .up units).positional

/-- Below this magnitude a whole number is displayed with one decimal place. -/
def displayBound : Nat := 10000000000000000

/-- **Record values.** The text of a number as a value. -/
def display : Binary64 → String
  | .nan => "nan"
  | .infinite negative => withSign negative "inf".toList
  | .finite negative units =>
    if units % unitsPerOne = 0 ∧ units / unitsPerOne < displayBound then
      withSign negative (decimalDigits (units / unitsPerOne) ++ ".0".toList)
    else withSign negative (shortest .up units).positional

/-- **JSON numbers.** -/
def json? : Binary64 → Option String
  | .finite negative units => some (withSign negative ((shortest .even units).general (-5) ['+']))
  | _ => none

/-- **Numbers in the log.** -/
def dump : Binary64 → String
  | .nan => "NaN"
  | .infinite negative => withSign negative "inf".toList
  | .finite negative units => withSign negative ((shortest .up units).general (-4) [])

/-- **Fixed places.** The number with exactly `places` decimal places. -/
def fixed (places : Nat) : Binary64 → String
  | .nan => "NaN"
  | .infinite negative => withSign negative "inf".toList
  | .finite negative units =>
    let scaled := decimalDigits (roundDiv (units * Nat.pow 10 places) unitsPerOne)
    let padded := List.replicate (places + 1 - scaled.length) '0' ++ scaled
    let cut := padded.length - places
    withSign negative (padded.take cut ++ '.' :: padded.drop cut)

end Binary64

end DisplayFilter
