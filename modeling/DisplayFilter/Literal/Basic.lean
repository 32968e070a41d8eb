import DisplayFilter.Address.Ipv4Range
import DisplayFilter.Lexeme
import DisplayFilter.Number.Layout

/-!
# Literals

A literal is the right side of a comparison.

* `NumberEntry` — a number or an interval of numbers in a list;
* `Literal` — a text, or a list of texts, of numbers or of address ranges;
* `quoted` — a text as it is written in a filter: bare, or between quotes that do not occur in it;
* `Literal.text` — a literal as it is written in a filter.
-/

namespace DisplayFilter

/-- **An entry of a list of numbers.** -/
inductive NumberEntry where
  | single (x : Binary64)
  /-- The numbers from `low` to `high`, both included. -/
  | range (low high : Binary64)
  deriving DecidableEq, Repr

namespace NumberEntry

/-- Whether a number is one of the entry's. -/
def contains (x : Binary64) : NumberEntry → Bool
  | single y => y.numEq x
  | range low high => low.le x && x.le high

/-- The text of an entry: a number, or two with two points between them. -/
def chars : NumberEntry → List Char
  | single x => x.plain.toList
  | range low high => low.plain.toList ++ '.' :: '.' :: high.plain.toList

end NumberEntry

/-- **A literal.** A text has no type of its own: each comparison reads it as it needs. -/
inductive Literal where
  | text (s : String)
  | strings (items : List String)
  | numbers (items : List NumberEntry)
  | addresses (items : List Ipv4Range)
  deriving DecidableEq

/-! ### Writing -/

/-- Whether a text reads as itself without quotes. -/
def isBare (s : List Char) : Bool :=
  !s.isEmpty && !s.head?.any isQuote && s.all isWordChar

/-- A text between quotes: double ones, or single ones around a text with a double one in it. -/
def enclosed (s : List Char) : List Char :=
  if s.contains '"' then '\'' :: s ++ ['\''] else '"' :: s ++ ['"']

/-- **Quoting.** A text as it is written in a filter. -/
def quoted (s : List Char) : List Char :=
  if isBare s then s else enclosed s

/-- The entries of a list between braces with commas. -/
def braced (entries : List (List Char)) : List Char :=
  '\x7b' :: Text.join [',', ' '] entries ++ ['\x7d']

namespace Literal

/-- The text of a literal that is no list. -/
def text? : Literal → Option String
  | text s => some s
  | _ => none

/-- Whether a literal is a list. -/
def isList : Literal → Bool
  | text _ => false
  | _ => true

/-- The characters of a literal. -/
def chars : Literal → List Char
  | text s => quoted s.toList
  | strings items => braced (items.map fun s => enclosed s.toList)
  | numbers items => braced (items.map NumberEntry.chars)
  | addresses items => braced (items.map fun r => r.text.toList)

/-- **The text of a literal** as it is written in a filter. -/
def display (x : Literal) : String :=
  String.ofList x.chars

end Literal

end DisplayFilter
