import DisplayFilter.Number.Binary64
import DisplayFilter.Text.Pieces

/-!
# Reading numbers

The two grammars of number texts: whole numbers of a base within sixty-four bits, and decimal
numbers of any size.

* `digitValue?` — the value of a digit in a base;
* `digitsValue?` — the value of a text of digits;
* `int64?` — an optional sign and digits, within the sixty-four bit range;
* `Binary64.ofText?` — a decimal with optional sign, fraction and exponent, or one of the words
  `inf`, `infinity` and `nan`.
-/

namespace DisplayFilter

/-! ### Whole numbers -/

/-- The value of a digit `0 … 9`, `a … z`, `A … Z` in a base of at most 36. -/
def digitValue? (base : Nat) (c : Char) : Option Nat :=
  let n := c.toNat
  let v? : Option Nat :=
    if 48 ≤ n ∧ n ≤ 57 then some (n - 48)
    else if 97 ≤ n ∧ n ≤ 122 then some (n - 87)
    else if 65 ≤ n ∧ n ≤ 90 then some (n - 55)
    else none
  v?.filter (· < base)

/-- The value of digits that follow digits of value `start`. -/
def digitsValueFrom? (base : Nat) : Nat → List Char → Option Nat
  | start, [] => some start
  | start, c :: s => do
    let d ← digitValue? base c
    digitsValueFrom? base (start * base + d) s

/-- The value of a text of at least one digit. -/
def digitsValue? (base : Nat) (s : List Char) : Option Nat :=
  if s.isEmpty then none else digitsValueFrom? base 0 s

/-- The least number of sixty-four bits with sign. -/
def int64Min : Int := -9223372036854775808

/-- The greatest number of sixty-four bits with sign. -/
def int64Max : Int := 9223372036854775807

/-- The first whole number that does not fit into sixty-four bits. -/
def word64Bound : Nat := 18446744073709551616

/-- Whether an integer fits into sixty-four bits with sign. -/
def fitsInt64 (n : Int) : Bool :=
  int64Min ≤ n && n ≤ int64Max

/-- A leading sign: whether it is a minus, and the text behind it. -/
def splitSign : List Char → Bool × List Char
  | '-' :: s => (true, s)
  | '+' :: s => (false, s)
  | s => (false, s)

/-- **Whole numbers.** An optional sign and digits of a base, within sixty-four bits. -/
def int64? (base : Nat) (s : List Char) : Option Int := do
  let (negative, digits) := splitSign s
  let n ← digitsValue? base digits
  let value : Int := if negative then -(n : Int) else n
  if fitsInt64 value then some value else none

/-! ### Decimal numbers -/

/-- Whether a character is a decimal digit `0 … 9`. -/
def isDecimalDigit (c : Char) : Bool :=
  c.isDigit

/-- The value of a text of decimal digits; other characters do not occur. -/
def decimalValue (s : List Char) : Nat :=
  s.foldl (fun n c => n * 10 + (c.toNat - 48)) 0

/-- The exponent at the end of a decimal: nothing, or `e` with a whole number. -/
def readExponent? : List Char → Option Int
  | [] => some 0
  | c :: s =>
    if c = 'e' ∨ c = 'E' then
      let (negative, digits) := splitSign s
      if digits.isEmpty || !digits.all isDecimalDigit then none
      else
        let n := decimalValue digits
        some (if negative then -(n : Int) else n)
    else none

/-- An unsigned decimal with the sign given: digits, a fraction and an exponent. At least one
digit stands before or behind the point. -/
def readDecimal? (negative : Bool) (s : List Char) : Option Binary64 := do
  let whole := s.takeWhile isDecimalDigit
  let afterWhole := s.dropWhile isDecimalDigit
  let (fraction, rest) :=
    match afterWhole with
    | '.' :: t => (t.takeWhile isDecimalDigit, t.dropWhile isDecimalDigit)
    | t => ([], t)
  if whole.isEmpty && fraction.isEmpty then none
  else
    let exponent ← readExponent? rest
    some (Binary64.ofDecimal negative (decimalValue (whole ++ fraction))
      (exponent - fraction.length))

/-- **Decimal numbers.** The value of a number text, correctly rounded. -/
def Binary64.ofText? (s : List Char) : Option Binary64 :=
  let (negative, body) := splitSign s
  if Text.equalCaseless body "inf".toList || Text.equalCaseless body "infinity".toList then
    some (.infinite negative)
  else if Text.equalCaseless body "nan".toList then some .nan
  else readDecimal? negative body

end DisplayFilter
