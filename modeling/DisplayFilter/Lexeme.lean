import DisplayFilter.Number.Reading
import DisplayFilter.Text.Blank
import DisplayFilter.Text.Pieces
import DisplayFilter.Text.Utf8

/-!
# Lexemes

The smallest parts of filter text. What a character means depends on where it stands — a dash
separates bounds between brackets and numbers between braces — so that there is no list of tokens
made up front: a reader asks for the lexeme it expects next and gets the text behind it.

* `isWordChar` — the characters of an unquoted value;
* `blanks?` — at least one blank;
* `Lexeme.integer?`, `Lexeme.number?` — signed numbers at the start of a text;
* `Quotation`, `quotation` — a text in quotes, without escapes;
* `Lexeme.word?` — an unquoted value;
* `Stop` — why and where reading ended early.
-/

namespace DisplayFilter

/-! ### Characters -/

/-- The characters that enclose something. -/
def isBracket (c : Char) : Bool :=
  c == '(' || c == ')' || c == '[' || c == ']' || c == '\x7b' || c == '\x7d'

/-- A character of an unquoted value: no blank, no control character, no bracket. -/
def isWordChar (c : Char) : Bool :=
  !Text.isBlank c && !Text.isControl c && !isBracket c

/-- A quote of either kind. -/
def isQuote (c : Char) : Bool :=
  c == '"' || c == '\''

/-! ### Ends of reading -/

/-- **An early end.** The cause, and the text that was not read. -/
structure Stop (ε : Type) where
  cause : ε
  rest : List Char
  deriving Repr, DecidableEq

/-! ### Blanks -/

/-- The text behind at least one blank. -/
def blanks? : List Char → Option (List Char)
  | [] => none
  | c :: s => if Text.isBlank c then some (Text.trimStart s) else none

/-! ### Numbers -/

namespace Lexeme

/-- The value of digits with a sign, within sixty-four bits. -/
def signedValue? (negative : Bool) (digits : List Char) : Option Int64 :=
  let n : Int := if negative then -(decimalValue digits : Int) else decimalValue digits
  if fitsInt64 n then some (Int64.ofInt n) else none

/-- **Integers.** An optional sign and digits, within sixty-four bits. -/
def integer? (s : List Char) : Option (Int64 × List Char) :=
  let (negative, body) := splitSign s
  let digits := body.takeWhile Char.isDigit
  if digits.isEmpty then none
  else (signedValue? negative digits).map (·, body.dropWhile Char.isDigit)

/-- The digits behind a point, and the text behind them. A point without a digit is not read. -/
def fraction (s : List Char) : List Char × List Char :=
  match s with
  | '.' :: t =>
    if (t.takeWhile Char.isDigit).isEmpty then ([], s)
    else (t.takeWhile Char.isDigit, t.dropWhile Char.isDigit)
  | _ => ([], s)

/-- **Numbers.** An optional sign, digits and a fraction. -/
def number? (s : List Char) : Option (Binary64 × List Char) :=
  let (negative, body) := splitSign s
  let digits := body.takeWhile Char.isDigit
  if digits.isEmpty then none
  else
    let (places, rest) := fraction (body.dropWhile Char.isDigit)
    some (Binary64.ofDecimal negative (decimalValue (digits ++ places)) (-(places.length : Int)),
      rest)

end Lexeme

/-! ### Quoted texts and words -/

/-- **What stands at the start of a text** where a quote may open. -/
inductive Quotation where
  /-- There is no quote. -/
  | absent
  /-- A quote opens and the same quote does not come again. -/
  | unclosed
  /-- The text between two quotes, and the text behind the second one. -/
  | closed (body rest : List Char)
  deriving Repr, DecidableEq

/-- **Quoted texts.** The text up to the next quote of the same kind; there are no escapes. -/
def quotation : List Char → Quotation
  | [] => .absent
  | q :: s =>
    if isQuote q then
      match Text.splitOnce (· == q) s with
      | some (body, rest) => .closed body rest
      | none => .unclosed
    else .absent

/-- **Unquoted values.** The characters up to a blank, a control character or a bracket, at least
one; a word does not start with a quote. -/
def Lexeme.word? (s : List Char) : Option (List Char × List Char) :=
  let word := s.takeWhile isWordChar
  if s.head?.any isQuote || word.isEmpty then none else some (word, s.dropWhile isWordChar)

/-! ### Laws -/

/-- A blank at the start is read. -/
theorem blanks?_cons_of_isBlank {c : Char} (h : Text.isBlank c = true) (s : List Char) :
    blanks? (c :: s) = some (Text.trimStart s) := by
  simp [blanks?, h]

/-- What does not start with a blank has none to read. -/
theorem blanks?_cons_of_not_isBlank {c : Char} (h : Text.isBlank c = false) (s : List Char) :
    blanks? (c :: s) = none := by
  simp [blanks?, h]

end DisplayFilter
