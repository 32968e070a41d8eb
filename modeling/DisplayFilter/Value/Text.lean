import DisplayFilter.Number.Layout
import DisplayFilter.Value.Basic

/-!
# The text of a value

* `Value.text` — a value as text: a string is itself, and strings inside of lists and maps stand in
  single quotes;
* `Value.asMember` — how a value with a given text is written inside of a list or a map.
-/

namespace DisplayFilter.Value

/-- A text in single quotes; nothing is escaped. -/
def singleQuoted (s : String) : List Char :=
  '\'' :: s.toList ++ ['\'']

/-- A value inside of a list or a map: a string stands in quotes, every other value is written as
it is alone. -/
def asMember : Value → List Char → List Char
  | .string s, _ => singleQuoted s
  | _, alone => alone

mutual

/-- The characters of a value. -/
def chars : Value → List Char
  | .null => "None".toList
  | .bool b => if b then "True".toList else "False".toList
  | .integer n => (integerText n.toInt).toList
  | .float x => x.display.toList
  | .string s => s.toList
  | .ipv4 x => x.text.toList
  | .ipv6 x => x.text.toList
  | .date x => x.text.toList
  | .list items => '[' :: Text.join [',', ' '] (itemChars items) ++ [']']
  | .map entries => '\x7b' :: Text.join [',', ' '] (entryChars entries) ++ ['\x7d']
termination_by structural v => v

/-- The texts of some items. -/
def itemChars : List Value → List (List Char)
  | [] => []
  | v :: items => asMember v (chars v) :: itemChars items
termination_by structural items => items

/-- The texts of some entries, each with its key in quotes. -/
def entryChars : List (String × Value) → List (List Char)
  | [] => []
  | (key, v) :: entries =>
    (singleQuoted key ++ ':' :: ' ' :: asMember v (chars v)) :: entryChars entries
termination_by structural entries => entries

end

/-- **The text of a value.** -/
def text (v : Value) : String :=
  String.ofList v.chars

end DisplayFilter.Value
