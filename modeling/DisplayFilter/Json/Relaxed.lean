import DisplayFilter.Json.Dialect
import DisplayFilter.Text.Category

/-!
# Relaxed JSON

The notation of documents that people write by hand: comments, commas behind the last part, names
without quotes, strings in single quotes, hexadecimal numbers, plus signs, and the words for
infinities and for what is no number.

* `Relaxed.skip?` — blanks and comments;
* `Relaxed.readString?` — a string behind its opening quote;
* `Relaxed.readNumber?` — a number;
* `Relaxed.name?` — a name with or without quotes;
* `relaxed` — the dialect.
-/

namespace DisplayFilter.Json

namespace Relaxed

/-! ### Blanks and comments -/

/-- The ends of lines. -/
def isLineEnd (c : Char) : Bool :=
  c == '\n' || c == '\r' || c.toNat == 0x2028 || c.toNat == 0x2029

/-- The blanks between parts: tabs and form feeds, space separators, ends of lines and the byte
order mark. -/
def isBlank (c : Char) : Bool :=
  c == '\t' || c == '\x0b' || c == '\x0c' || c.toNat == 0xFEFF || isLineEnd c
    || Text.Category.zs.contains c

/-- What stands between two parts. -/
inductive Gap where
  | blanks
  /-- A comment up to the end of the line. -/
  | line
  /-- A comment up to an asterisk with a slash behind it. -/
  | block

/-- The text behind blanks and comments, read inside of a gap. -/
def skipIn? : Gap → List Char → Option (List Char)
  | .blanks, [] => some []
  | .blanks, '/' :: '/' :: s => skipIn? .line s
  | .blanks, '/' :: '*' :: s => skipIn? .block s
  | .blanks, c :: s => if isBlank c then skipIn? .blanks s else some (c :: s)
  | .line, [] => some []
  | .line, c :: s => skipIn? (if isLineEnd c then .blanks else .line) s
  | .block, [] => none
  | .block, '*' :: '/' :: s => skipIn? .blanks s
  | .block, _ :: s => skipIn? .block s

/-- **Blanks and comments.** Nothing if a comment does not end. -/
def skip? (s : List Char) : Option (List Char) :=
  skipIn? .blanks s

/-! ### Strings -/

/-- The character of an escape of one letter; most characters stand for themselves. -/
def escaped? (c : Char) : Option Char :=
  match c with
  | 'b' => some '\x08'
  | 'f' => some '\x0c'
  | 'n' => some '\n'
  | 'r' => some '\r'
  | 't' => some '\t'
  | 'v' => some '\x0b'
  | c => if c.isDigit then none else some c

/-- A character by two hexadecimal digits. -/
def readByte? : List Char → Option (Char × List Char)
  | a :: b :: s => (digitsValueFrom? 16 0 [a, b]).map fun n => (Char.ofNat n, s)
  | _ => none

/-- What an escape stands for behind its backslash: a character, or nothing for the end of a
line. -/
def readEscape? : List Char → Option (Option Char × List Char)
  | [] => none
  | 'u' :: s => (readUnicode? s).map fun (c, rest) => (some c, rest)
  | 'x' :: s => (readByte? s).map fun (c, rest) => (some c, rest)
  | '0' :: s => if s.head?.any Char.isDigit then none else some (some '\x00', s)
  | '\r' :: '\n' :: s => some (none, s)
  | c :: s =>
    if isLineEnd c then some (none, s)
    else (escaped? c).map fun c => (some c, s)

/-- **A string** behind its opening quote. Every step reads a character, so that `fuel` characters
hold no more of them. -/
def readString? (quote : Char) : Nat → List Char → Option (List Char × List Char)
  | 0, _ => none
  | fuel + 1, s =>
    match s with
    | [] => none
    | '\\' :: t => do
      let (c, rest) ← readEscape? t
      let (more, rest) ← readString? quote fuel rest
      pure (c.toList ++ more, rest)
    | c :: t =>
      if c = quote then some ([], t)
      else if c = '\n' ∨ c = '\r' then none
      else do
        let (more, rest) ← readString? quote fuel t
        pure (c :: more, rest)

/-- A string with its quotes. -/
def quotedString? : List Char → Option (String × List Char)
  | q :: s =>
    if q = '"' ∨ q = '\'' then
      (readString? q (s.length + 1) s).map fun (t, rest) => (String.ofList t, rest)
    else none
  | [] => none

/-! ### Names -/

/-- The characters that a name without quotes starts with. -/
def startsName (c : Char) : Bool :=
  c == '$' || c == '_' || [Text.Category.lu, .ll, .lt, .lm, .lo, .nl].any (·.contains c)

/-- The characters of a name without quotes. -/
def continuesName (c : Char) : Bool :=
  startsName c || c.toNat == 0x200C || c.toNat == 0x200D
    || [Text.Category.mn, .mc, .nd, .pc].any (·.contains c)

/-- The characters of a name without quotes, which may be written by their numbers. -/
def readBareName? : Nat → Bool → List Char → Option (List Char × List Char)
  | 0, _, _ => none
  | fuel + 1, first, s =>
    let admitted := fun c => if first then startsName c else continuesName c
    match s with
    | '\\' :: 'u' :: t => do
      let (c, rest) ← readUnicode? t
      if admitted c then
        let (more, rest) ← readBareName? fuel false rest
        pure (c :: more, rest)
      else none
    | c :: t =>
      if admitted c then do
        let (more, rest) ← readBareName? fuel false t
        pure (c :: more, rest)
      else if first then none
      else some ([], s)
    | [] => if first then none else some ([], s)

/-- **The name of a member,** with or without quotes. -/
def name? (s : List Char) : Option (String × List Char) :=
  if s.head? = some '"' ∨ s.head? = some '\'' then quotedString? s
  else (readBareName? (s.length + 1) true s).map fun (t, rest) => (String.ofList t, rest)

/-! ### Numbers -/

/-- The document of an integer: one of sixty-four bits, or a number with a fraction. -/
def ofInteger (n : Int) : Json :=
  if int64Min ≤ n ∧ n < word64Bound then .integer n else .ofBinary64 (Binary64.ofInt n)

/-- A value with a sign. -/
def withSign (negative : Bool) (n : Nat) : Int :=
  if negative then -(n : Int) else n

/-- A hexadecimal number behind `0x`. -/
def readHex? (negative : Bool) (s : List Char) : Option (Json × List Char) :=
  let isHex := fun c => (digitValue? 16 c).isSome
  (digitsValue? 16 (s.takeWhile isHex)).map fun n =>
    (ofInteger (withSign negative n), s.dropWhile isHex)

/-- The exponent of a number, if there is one; a letter without digits behind it is refused. -/
def readExponent? (s : List Char) : Option (Option Int × List Char) :=
  match s with
  | c :: t =>
    if c = 'e' ∨ c = 'E' then
      let (negative, u) := splitSign t
      let digits := u.takeWhile Char.isDigit
      if digits.isEmpty then none
      else some (some (withSign negative (decimalValue digits)), u.dropWhile Char.isDigit)
    else some (none, s)
  | [] => some (none, [])

/-- A decimal number: digits in front of a point, behind it or on both sides, and an exponent. -/
def readDecimal? (negative : Bool) (s : List Char) : Option (Json × List Char) := do
  let whole := s.takeWhile Char.isDigit
  let afterWhole := s.dropWhile Char.isDigit
  let (point, fraction, rest) :=
    match afterWhole with
    | '.' :: t => (true, t.takeWhile Char.isDigit, t.dropWhile Char.isDigit)
    | t => (false, [], t)
  if (whole.isEmpty && fraction.isEmpty) || (whole.head? == some '0' && 1 < whole.length) then
    none
  else
    let (exponent, rest) ← readExponent? rest
    if point || exponent.isSome then
      pure (.ofBinary64 (Binary64.ofDecimal negative (decimalValue (whole ++ fraction))
        (exponent.getD 0 - fraction.length)), rest)
    else pure (ofInteger (withSign negative (decimalValue whole)), rest)

/-- **A number** with an optional sign. Infinities and what is no number have no form but null. -/
def readNumber? (s : List Char) : Option (Json × List Char) :=
  let (negative, t) := splitSign s
  match Text.dropText? "Infinity".toList t, Text.dropText? "NaN".toList t with
  | some rest, _ => some (.null, rest)
  | _, some rest => some (.null, rest)
  | none, none =>
    match t with
    | '0' :: 'x' :: u => readHex? negative u
    | '0' :: 'X' :: u => readHex? negative u
    | u => readDecimal? negative u

/-- A document without parts. A word or number does not run on into a name. -/
def scalar? (s : List Char) : Option (Json × List Char) := do
  match quotedString? s with
  | some (t, rest) => pure (.string t, rest)
  | none =>
    let (j, rest) ← (readWord? s).or (readNumber? s)
    if rest.head?.any continuesName then none else pure (j, rest)

end Relaxed

/-- **The relaxed dialect.** -/
def relaxed : Dialect where
  skip? := Relaxed.skip?
  scalar? := Relaxed.scalar?
  name? := Relaxed.name?
  trailingComma := true
  depth := none

end DisplayFilter.Json
