import DisplayFilter.Json.Dialect

/-!
# Strict JSON

The notation of the JSON standard. Numbers with a fraction or an exponent are read fast rather than
exactly: their first digits make a whole number below `2 ^ 64`, which is then multiplied with or
divided by a power of ten, so that the last bit may be off.

* `Strict.readString?` — a string behind its opening quote;
* `Strict.scaled?` — a whole number times a power of ten;
* `Strict.readNumber?` — a number;
* `strict` — the dialect, with arrays and objects nested 127 deep at most.
-/

namespace DisplayFilter.Json

namespace Strict

/-- The text behind blanks: spaces, tabs and ends of lines. -/
def skip (s : List Char) : List Char :=
  s.dropWhile fun c => c == ' ' || c == '\n' || c == '\t' || c == '\r'

/-! ### Strings -/

/-- The character of an escape of one letter. -/
def escaped? (c : Char) : Option Char :=
  match c with
  | '"' => some '"'
  | '\\' => some '\\'
  | '/' => some '/'
  | 'b' => some '\x08'
  | 'f' => some '\x0c'
  | 'n' => some '\n'
  | 'r' => some '\r'
  | 't' => some '\t'
  | _ => none

/-- **A string** behind its opening quote; control characters are written as escapes. Every step
reads a character, so that `fuel` characters hold no more of them. -/
def readString? : Nat → List Char → Option (List Char × List Char)
  | 0, _ => none
  | fuel + 1, s =>
    match s with
    | [] => none
    | '"' :: rest => some ([], rest)
    | '\\' :: 'u' :: t => do
      let (c, rest) ← readUnicode? t
      let (more, rest) ← readString? fuel rest
      pure (c :: more, rest)
    | '\\' :: c :: t => do
      let c ← escaped? c
      let (more, rest) ← readString? fuel t
      pure (c :: more, rest)
    | c :: t =>
      if c.toNat < 0x20 then none
      else do
        let (more, rest) ← readString? fuel t
        pure (c :: more, rest)

/-- A string with its quotes. -/
def quotedString? : List Char → Option (String × List Char)
  | '"' :: s => (readString? (s.length + 1) s).map fun (t, rest) => (String.ofList t, rest)
  | _ => none

/-! ### Numbers -/

/-- The power of ten nearest to `10 ^ n`. -/
def powerOfTen (n : Nat) : Binary64 :=
  Binary64.ofNat (Nat.pow 10 n)

/-- The greatest exponent that is applied in one step. -/
def greatestPower : Nat := 308

/-- A number divided by `10 ^ n`, in steps of the greatest power. -/
def dividedBy : Nat → Nat → Binary64 → Binary64
  | 0, _, x => x
  | fuel + 1, n, x =>
    if n ≤ greatestPower then x.div (powerOfTen n)
    else if x = .finite false 0 then x
    else dividedBy fuel (n - greatestPower) (x.div (powerOfTen greatestPower))

/-- **A whole number times a power of ten,** each step rounded. What is too large is no number. -/
def scaled? (significand : Nat) (exponent : Int) : Option Binary64 :=
  let x := Binary64.ofNat significand
  if 0 ≤ exponent then
    if x = .finite false 0 then some x
    else if greatestPower < exponent.toNat then none
    else
      let y := x.mul (powerOfTen exponent.toNat)
      if y.isFinite then some y else none
  else some (dividedBy 4 (-exponent).toNat x)

/-- The digits that make a number below `2 ^ 64`, as many as there can be: the number, and the
digits that are left. -/
def leadingDigits : Nat → List Char → Nat × List Char
  | value, [] => (value, [])
  | value, c :: s =>
    let next := value * 10 + (c.toNat - 48)
    if next < word64Bound then leadingDigits next s else (value, c :: s)

/-- An exponent behind its letter: a sign and digits, at least one. -/
def readExponent? (s : List Char) : Option (Int × List Char) :=
  let (negative, t) := splitSign s
  let digits := t.takeWhile Char.isDigit
  if digits.isEmpty then none
  else
    let n : Int := decimalValue digits
    some (if negative then -n else n, t.dropWhile Char.isDigit)

/-- The least exponent that counts as out of bounds. -/
def exponentBound : Int := 2147483648

/-- A number from its first digits, the power of ten they are to be scaled by and an exponent. -/
def valueOf? (significand : Nat) (scale exponent : Int) : Option Binary64 :=
  if exponentBound ≤ exponent ∧ significand ≠ 0 then none
  else if exponentBound ≤ exponent ∨ exponent ≤ -exponentBound then some Binary64.zero
  else scaled? significand (scale + exponent)

/-- The sign of a number. -/
def signed (negative : Bool) : Binary64 → Binary64
  | .finite _ units => .finite negative units
  | x => x

/-- A number with a fraction or an exponent, from the digits in front of the point. -/
def readFloat? (negative : Bool) (whole : List Char) (s : List Char) :
    Option (Json × List Char) := do
  let (fraction, rest) ←
    match s with
    | '.' :: t =>
      let digits := t.takeWhile Char.isDigit
      if digits.isEmpty then none else some (digits, t.dropWhile Char.isDigit)
    | t => some ([], t)
  let (exponent, rest) ←
    match rest with
    | 'e' :: t => readExponent? t
    | 'E' :: t => readExponent? t
    | t => some (0, t)
  let (high, left) := leadingDigits 0 whole
  let (significand, scale) : Nat × Int :=
    if left.isEmpty then
      let (low, dropped) := leadingDigits high fraction
      (low, -(fraction.length - dropped.length : Nat))
    else
      let (low, dropped) := leadingDigits high fraction
      (low, left.length - (fraction.length - dropped.length : Nat))
  let x ← valueOf? significand scale exponent
  pure (.float (signed negative x), rest)

/-- A whole number: an integer where one of sixty-four bits can be, else a number with a
fraction. -/
def wholeJson? (negative : Bool) (digits : List Char) : Option Json :=
  let n := decimalValue digits
  if negative then
    if n ≠ 0 ∧ n ≤ int64Min.natAbs then some (.integer (-(n : Int)))
    else if n < word64Bound then some (.float (signed true (Binary64.ofNat n)))
    else
      let (significand, left) := leadingDigits 0 digits
      (scaled? significand left.length).map fun x => .float (signed true x)
  else if n < word64Bound then some (.integer n)
  else
    let (significand, left) := leadingDigits 0 digits
    (scaled? significand left.length).map .float

/-- **A number:** an optional minus sign, digits without a leading zero, a fraction and an
exponent. -/
def readNumber? (s : List Char) : Option (Json × List Char) :=
  let (negative, t) :=
    match s with
    | '-' :: t => (true, t)
    | t => (false, t)
  let digits := t.takeWhile Char.isDigit
  let rest := t.dropWhile Char.isDigit
  if digits.isEmpty || (digits.head? == some '0' && 1 < digits.length) then none
  else
    match rest.head? with
    | some '.' => readFloat? negative digits rest
    | some 'e' => readFloat? negative digits rest
    | some 'E' => readFloat? negative digits rest
    | _ => (wholeJson? negative digits).map (·, rest)

/-- A document without parts. -/
def scalar? (s : List Char) : Option (Json × List Char) :=
  match s.head? with
  | some '"' => (quotedString? s).map fun (t, rest) => (.string t, rest)
  | some 'n' => readWord? s
  | some 't' => readWord? s
  | some 'f' => readWord? s
  | _ => readNumber? s

end Strict

/-- **The strict dialect.** -/
def strict : Dialect where
  skip? s := some (Strict.skip s)
  scalar? := Strict.scalar?
  name? := Strict.quotedString?
  trailingComma := false
  depth := some 127

end DisplayFilter.Json
