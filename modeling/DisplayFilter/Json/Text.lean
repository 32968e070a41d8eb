import DisplayFilter.Json.Basic
import DisplayFilter.Number.Layout
import DisplayFilter.Text.Pieces

/-!
# The text of a JSON document

* `Json.quoted` — a string with quotes and escapes;
* `Json.compact` — a document on one line without blanks;
* `Json.pretty` — a document with one member or item on each line, indented by two blanks.
-/

namespace DisplayFilter.Json

/-! ### Strings -/

/-- A digit of base sixteen. -/
def hexDigit (n : Nat) : Char :=
  (Nat.toDigits 16 n).headD '0'

/-- **Escapes.** Quotes, backslashes and control characters below the blank are written with a
backslash; all else stands for itself. -/
def escaped (c : Char) : List Char :=
  if c = '"' then ['\\', '"']
  else if c = '\\' then ['\\', '\\']
  else if c = '\n' then ['\\', 'n']
  else if c = '\r' then ['\\', 'r']
  else if c = '\t' then ['\\', 't']
  else if c = '\x08' then ['\\', 'b']
  else if c = '\x0c' then ['\\', 'f']
  else if c.toNat < 0x20 then
    ['\\', 'u', '0', '0', hexDigit (c.toNat / 16), hexDigit (c.toNat % 16)]
  else [c]

/-- A string with quotes and escapes. -/
def quoted (s : String) : List Char :=
  '"' :: s.toList.flatMap escaped ++ ['"']

/-- The text of a number with a fraction; what is no finite number is written as null. -/
def numberText (x : Binary64) : List Char :=
  (x.json?.getD "null").toList

/-! ### One line -/

mutual

/-- The characters of a document on one line. -/
def compactChars : Json → List Char
  | .null => "null".toList
  | .bool b => if b then "true".toList else "false".toList
  | .integer n => (integerText n).toList
  | .float x => numberText x
  | .string s => quoted s
  | .array items => '[' :: Text.join [','] (compactItems items) ++ [']']
  | .object members => '\x7b' :: Text.join [','] (compactMembers members) ++ ['\x7d']
termination_by structural j => j

/-- The texts of some items. -/
def compactItems : List Json → List (List Char)
  | [] => []
  | j :: items => compactChars j :: compactItems items
termination_by structural items => items

/-- The texts of some members, each with its name. -/
def compactMembers : List (String × Json) → List (List Char)
  | [] => []
  | (name, j) :: members => (quoted name ++ ':' :: compactChars j) :: compactMembers members
termination_by structural members => members

end

/-- **One line.** The document without any blank. -/
def compact (j : Json) : String :=
  String.ofList j.compactChars

/-! ### Many lines -/

/-- The start of a line at a depth. -/
def lineStart (depth : Nat) : List Char :=
  '\n' :: List.replicate (2 * depth) ' '

/-- Parts between brackets, each on a line of its own; without parts the brackets touch. -/
def bracketed (depth : Nat) (opening closing : Char) (parts : List (List Char)) : List Char :=
  if parts.isEmpty then [opening, closing]
  else
    opening :: lineStart (depth + 1) ++ Text.join (',' :: lineStart (depth + 1)) parts
      ++ lineStart depth ++ [closing]

mutual

/-- The characters of a document whose lines are indented by `depth` steps. -/
def prettyChars : Json → Nat → List Char
  | .null, _ => "null".toList
  | .bool b, _ => if b then "true".toList else "false".toList
  | .integer n, _ => (integerText n).toList
  | .float x, _ => numberText x
  | .string s, _ => quoted s
  | .array items, depth => bracketed depth '[' ']' (prettyItems items (depth + 1))
  | .object members, depth =>
    bracketed depth '\x7b' '\x7d' (prettyMembers members (depth + 1))
termination_by structural j => j

/-- The texts of some items at a depth. -/
def prettyItems : List Json → Nat → List (List Char)
  | [], _ => []
  | j :: items, depth => prettyChars j depth :: prettyItems items depth
termination_by structural items => items

/-- The texts of some members at a depth, each with its name. -/
def prettyMembers : List (String × Json) → Nat → List (List Char)
  | [], _ => []
  | (name, j) :: members, depth =>
    (quoted name ++ ':' :: ' ' :: prettyChars j depth) :: prettyMembers members depth
termination_by structural members => members

end

/-- **Many lines.** The document with indented lines. -/
def pretty (j : Json) : String :=
  String.ofList (j.prettyChars 0)

end DisplayFilter.Json
