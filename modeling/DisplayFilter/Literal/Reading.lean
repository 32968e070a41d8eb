import DisplayFilter.Address.Ipv4RangeReading
import DisplayFilter.Literal.Basic

/-!
# Reading literals

A literal is a text in quotes, a list in braces or an unquoted word. A list is read as address
ranges, as quoted texts and as numbers, in this order; the first reading that covers the whole list
counts.

* `LiteralFault` — what is wrong with a literal and where;
* `readEntries` — the entries of a list up to the closing brace;
* `quotedItem?`, `numberItem?` — entries of lists;
* `Literal.readList`, `Literal.read` — a list, and any literal, at the start of a text.
-/

namespace DisplayFilter

/-- **What is wrong with a literal.** Places are texts left to read, or positions in the filter;
positions in the reason for a bad address count from the start of the piece that holds it. -/
inductive LiteralFault (ℓ : Type) where
  | mismatchedQuotes (place : ℓ)
  | invalidAddress (piece : String) (reason : RangeFault Nat)
  | expectedValue (place : ℓ)
  | invalidList (place : ℓ)
  deriving DecidableEq

namespace LiteralFault

/-- The fault with its place seen in another way. -/
def mapPlace {ℓ ℓ' : Type} (f : ℓ → ℓ') : LiteralFault ℓ → LiteralFault ℓ'
  | mismatchedQuotes place => mismatchedQuotes (f place)
  | invalidAddress piece reason => invalidAddress piece reason
  | expectedValue place => expectedValue (f place)
  | invalidList place => invalidList (f place)

/-- What a fault says besides its place. -/
def reason {ℓ : Type} : LiteralFault ℓ → String
  | mismatchedQuotes _ => "mismatched quotes"
  | invalidAddress piece reason => piece ++ ": " ++ reason.message
  | expectedValue _ => "expected a value"
  | invalidList _ => "invalid list literal"

end LiteralFault

/-- Why and where reading a literal ended early. -/
abbrev LiteralStop := Stop (LiteralFault (List Char))

/-! ### Entries -/

/-- **The entries of a list** with commas between them, blanks around them and the closing brace.
An entry takes a character at least, so that `fuel` characters hold no more entries. -/
def readEntries {α : Type} (item? : List Char → Option (α × List Char)) :
    Nat → List Char → Option (List α × List Char)
  | 0, _ => none
  | fuel + 1, s => do
    let (x, rest) ← item? (Text.trimStart s)
    match Text.trimStart rest with
    | ',' :: t => do
      let (more, rest) ← readEntries item? fuel t
      pure (x :: more, rest)
    | '\x7d' :: t => some ([x], t)
    | _ => none

/-- A range of addresses. -/
def addressItem? (s : List Char) : Option (Ipv4Range × List Char) :=
  (Ipv4Range.read s).toOption

/-- A text in quotes. -/
def quotedItem? (s : List Char) : Option (String × List Char) :=
  match quotation s with
  | .closed body rest => some (String.ofList body, rest)
  | _ => none

/-- The text behind the sign of an interval, two points or a dash. -/
def dropRangeSign? : List Char → Option (List Char)
  | '.' :: '.' :: s => some s
  | '-' :: s => some s
  | _ => none

/-- The upper end of an interval, behind blanks and the sign. -/
def upperEnd? (s : List Char) : Option (Binary64 × List Char) := do
  Lexeme.number? (Text.trimStart (← dropRangeSign? (Text.trimStart s)))

/-- **A number or an interval of numbers.** What follows a number and is no upper end is not
read. -/
def numberItem? (s : List Char) : Option (NumberEntry × List Char) := do
  let (low, rest) ← Lexeme.number? s
  match upperEnd? rest with
  | some (high, rest) => pure (.range low high, rest)
  | none => pure (.single low, rest)

/-! ### Lists -/

/-- The whole list behind its opening brace, all entries of one kind. -/
def readListOf? {α : Type} (make : List α → Literal)
    (item? : List Char → Option (α × List Char)) (s : List Char) :
    Option (Literal × List Char) :=
  (readEntries item? (s.length + 1) s).map fun (xs, rest) => (make xs, rest)

/-- **The whole list** in the first reading that covers it. -/
def Literal.readBody? (s : List Char) : Option (Literal × List Char) :=
  (readListOf? .addresses addressItem? s).or
    ((readListOf? .strings quotedItem? s).or (readListOf? .numbers numberItem? s))

/-- The characters of the first piece of a list that cannot be read. -/
def isPieceChar (c : Char) : Bool :=
  c != ',' && c != '\x7d' && !Text.isBlank c

/-- What is wrong with a piece that has two points and is no address range. -/
def addressFault? (piece : List Char) : Option (RangeFault Nat) :=
  if 2 ≤ piece.count '.' then
    match Ipv4Range.read piece with
    | .error stop => some (stop.cause.mapPlace (Text.bytePosition piece))
    | .ok _ => none
  else none

/-- **The fault of a list** that cannot be read, told by its first piece: a bad address if it has
two points, mismatched quotes if a quote opens in it and does not close. -/
def Literal.listFault (start piece pieceStart : List Char) : LiteralFault (List Char) :=
  match addressFault? piece with
  | some reason => .invalidAddress (String.ofList piece) reason
  | none =>
    if quotation piece = .unclosed then .mismatchedQuotes pieceStart else .invalidList start

/-- **A list.** Behind its opening brace `start` goes on with `s`. -/
def Literal.readList (start s : List Char) : Except LiteralStop (Literal × List Char) :=
  match Literal.readBody? s with
  | some answer => .ok answer
  | none =>
    let pieceStart := Text.trimStart s
    let piece := pieceStart.takeWhile isPieceChar
    .error ⟨Literal.listFault start piece pieceStart, pieceStart.dropWhile isPieceChar⟩

/-- **A literal at the start of a text.** -/
def Literal.read (s : List Char) : Except LiteralStop (Literal × List Char) :=
  match quotation s with
  | .closed body rest => .ok (.text (String.ofList body), rest)
  | .unclosed => .error ⟨.mismatchedQuotes s, s⟩
  | .absent =>
    match s with
    | '\x7b' :: t => Literal.readList s t
    | _ =>
      match Lexeme.word? s with
      | some (word, rest) => .ok (.text (String.ofList word), rest)
      | none => .error ⟨.expectedValue s, s⟩

end DisplayFilter
