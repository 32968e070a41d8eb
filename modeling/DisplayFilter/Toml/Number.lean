import DisplayFilter.Calendar.Moment
import DisplayFilter.Number.Reading

/-!
# Numbers, dates and times of TOML documents

No setting is a number or a date. A document that holds one in bad form is refused all the same, so
that these readers check the form and give the text behind it.

* `skipInteger?` — a whole number in one of four bases;
* `skipFloat?` — a number with a fraction or an exponent, or one of the words for infinity and for
  what is no number;
* `skipMoment?` — a date, a time, or both with an offset;
* `skipNumber?` — a number of either kind.
-/

namespace DisplayFilter.Toml

/-! ### Digits -/

/-- More digits behind a digit: an underscore may stand between two of them. The result is the
digits without underscores. -/
def moreDigits (isDigit : Char → Bool) : List Char → List Char × List Char
  | [] => ([], [])
  | '_' :: c :: s =>
    if isDigit c then
      let (digits, rest) := moreDigits isDigit s
      (c :: digits, rest)
    else ([], '_' :: c :: s)
  | c :: s =>
    if isDigit c then
      let (digits, rest) := moreDigits isDigit s
      (c :: digits, rest)
    else ([], c :: s)

/-- Digits, at least one. -/
def digits? (isDigit : Char → Bool) : List Char → Option (List Char × List Char)
  | [] => none
  | c :: s =>
    if isDigit c then
      let (digits, rest) := moreDigits isDigit s
      some (c :: digits, rest)
    else none

/-- Decimal digits of a whole number: nothing follows a leading zero. -/
def wholeDigits? : List Char → Option (List Char × List Char)
  | '0' :: s => some (['0'], s)
  | s => digits? Char.isDigit s

/-! ### Whole numbers -/

/-- The base that a letter behind a zero stands for. -/
def base? (c : Char) : Option Nat :=
  match c with
  | 'x' => some 16
  | 'o' => some 8
  | 'b' => some 2
  | _ => none

/-- A whole number without a sign behind its base. -/
def skipBased? (base : Nat) (s : List Char) : Option (List Char) := do
  let (digits, rest) ← digits? (fun c => (digitValue? base c).isSome) s
  let n ← digitsValueFrom? base 0 digits
  if n ≤ int64Max.natAbs then pure rest else none

/-- A decimal number with or without a sign. -/
def skipDecimal? (s : List Char) : Option (List Char) := do
  let (negative, t) := splitSign s
  let (digits, rest) ← wholeDigits? t
  let n : Int := if negative then -(decimalValue digits : Int) else decimalValue digits
  if fitsInt64 n then pure rest else none

/-- **A whole number** within sixty-four bits. -/
def skipInteger? (s : List Char) : Option (List Char) :=
  match s with
  | '0' :: c :: t =>
    match base? c with
    | some base => skipBased? base t
    | none => skipDecimal? s
  | s => skipDecimal? s

/-! ### Numbers with a fraction -/

/-- A fraction with its point, without underscores. -/
def fraction? : List Char → Option (List Char × List Char)
  | '.' :: s => (digits? Char.isDigit s).map fun (digits, rest) => ('.' :: digits, rest)
  | _ => none

/-- An exponent with its letter, without underscores. -/
def exponent? : List Char → Option (List Char × List Char)
  | c :: s =>
    if c = 'e' ∨ c = 'E' then
      let (negative, t) := splitSign s
      (digits? Char.isDigit t).map fun (digits, rest) =>
        ('e' :: (if negative then '-' :: digits else digits), rest)
    else none
  | [] => none

/-- A fraction with or without an exponent, or an exponent alone. -/
def fractional? (s : List Char) : Option (List Char × List Char) :=
  match fraction? s with
  | none => exponent? s
  | some (f, rest) =>
    match exponent? rest with
    | none => some (f, rest)
    | some (e, rest) => some (f ++ e, rest)

/-- **A number with a fraction or an exponent.** A number too large for sixty-four bits is refused
if it is positive. -/
def skipFloat? (s : List Char) : Option (List Char) :=
  let (negative, t) := splitSign s
  match t with
  | 'i' :: 'n' :: 'f' :: rest => some rest
  | 'n' :: 'a' :: 'n' :: rest => some rest
  | t => do
    let (whole, rest) ← wholeDigits? t
    let (fraction, rest) ← fractional? rest
    let x ← readDecimal? negative (whole ++ fraction)
    if negative || x.isFinite then pure rest else none

/-! ### Dates and times -/

/-- A number of exactly so many digits between two bounds. -/
def fixed? (count least greatest : Nat) (s : List Char) : Option (Nat × List Char) :=
  let digits := s.take count
  let n := decimalValue digits
  if digits.length = count ∧ digits.all Char.isDigit ∧ least ≤ n ∧ n ≤ greatest then
    some (n, s.drop count)
  else none

/-- The text behind one character. -/
def behind? (c : Char) : List Char → Option (List Char)
  | [] => none
  | d :: s => if c = d then some s else none

/-- A date with a day that its month has. -/
def skipDate? (s : List Char) : Option (List Char) := do
  let (year, rest) ← fixed? 4 0 9999 s
  let (month, rest) ← fixed? 2 1 12 (← behind? '-' rest)
  let (_, rest) ← fixed? 2 1 (daysInMonth year month) (← behind? '-' rest)
  pure rest

/-- Digits of a second behind a point. -/
def skipSecondFraction? : List Char → Option (List Char)
  | '.' :: s =>
    if (s.takeWhile Char.isDigit).isEmpty then none else some (s.dropWhile Char.isDigit)
  | _ => none

/-- A time of the day; a leap second is one. -/
def skipTime? (s : List Char) : Option (List Char) := do
  let (_, rest) ← fixed? 2 0 23 s
  let (_, rest) ← fixed? 2 0 59 (← behind? ':' rest)
  let (_, rest) ← fixed? 2 0 60 (← behind? ':' rest)
  pure ((skipSecondFraction? rest).getD rest)

/-- A distance from universal time. -/
def skipOffset? : List Char → Option (List Char)
  | [] => none
  | c :: s =>
    if c = 'Z' ∨ c = 'z' then some s
    else if c = '+' ∨ c = '-' then do
      let (_, rest) ← fixed? 2 0 23 s
      let (_, rest) ← fixed? 2 0 59 (← behind? ':' rest)
      pure rest
    else none

/-- A time behind a date. -/
def skipTimeOfDate? : List Char → Option (List Char)
  | [] => none
  | c :: s =>
    if c = 'T' ∨ c = 't' ∨ c = ' ' then do
      let rest ← skipTime? s
      pure ((skipOffset? rest).getD rest)
    else none

/-- **A date, a time of the day, or a date with a time** that may have an offset. -/
def skipMoment? (s : List Char) : Option (List Char) :=
  match skipDate? s with
  | some rest => some ((skipTimeOfDate? rest).getD rest)
  | none => skipTime? s

/-! ### Numbers -/

/-- **A number:** a float, or an integer. -/
def skipNumber? (s : List Char) : Option (List Char) :=
  (skipFloat? s).or (skipInteger? s)

end DisplayFilter.Toml
