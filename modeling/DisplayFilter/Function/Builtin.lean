import DisplayFilter.Function.Basic
import DisplayFilter.Text.Blank
import DisplayFilter.Text.LetterCase

/-!
# The known functions

* `lengthOf` — the number of characters, items or entries;
* `onText` — a function of texts as a function of values;
* `Function.builtin?` — the known functions by name;
* `FunctionTable.ofNames` — a table of known functions, or the first name that is none;
* `FunctionTable.standard` — the table of `len`, `lower` and `upper`.
-/

namespace DisplayFilter

/-- The message of a function that has no meaning for a kind of value. -/
def notDefinedFor (name : String) (kind : Kind) : String :=
  name ++ "() is not defined for " ++ kind.name

/-- **Lengths.** The number of characters of a text, of items of a list or of entries of a map;
null has the length null. -/
def lengthOf : Value → Except String Value
  | .null => .ok .null
  | .string s => .ok (.integer (Int64.ofNat s.length))
  | .list items => .ok (.integer (Int64.ofNat items.length))
  | .map entries => .ok (.integer (Int64.ofNat entries.length))
  | v => .error (notDefinedFor "len" v.kind)

/-- **Functions of texts.** Null stays null, and other values have no text. -/
def onText (name : String) (f : List Char → List Char) : Value → Except String Value
  | .null => .ok .null
  | .string s => .ok (.string (String.ofList (f s.toList)))
  | v => .error (notDefinedFor name v.kind)

/-- What a known function does. -/
def builtinAction? (name : String) : Option (Value → Except String Value) :=
  match name with
  | "len" => some lengthOf
  | "lower" => some (onText "lower" Text.lower)
  | "upper" => some (onText "upper" Text.upper)
  | "trim" => some (onText "trim" Text.trim)
  | "ltrim" => some (onText "ltrim" Text.trimStart)
  | "rtrim" => some (onText "rtrim" Text.trimEnd)
  | _ => none

/-- The known functions by name. -/
def Function.builtin? (name : String) : Option Function :=
  (builtinAction? name).map fun apply => ⟨name, apply⟩

namespace FunctionTable

/-- A table with the known functions of some names added, or the first name that is none. -/
def addNames (table : FunctionTable) : List String → Except String FunctionTable
  | [] => .ok table
  | name :: names =>
    match Function.builtin? name with
    | some f => addNames (table.register f) names
    | none => .error name

/-- **A table of known functions,** or the first name that is none. -/
def ofNames (names : List String) : Except String FunctionTable :=
  addNames empty names

/-- The names that are known without being asked for. -/
def standardNames : List String :=
  ["len", "lower", "upper"]

/-- **The standard table.** -/
def standard : FunctionTable :=
  [("len", lengthOf), ("lower", onText "lower" Text.lower), ("upper", onText "upper" Text.upper)]

/-- The standard table has the functions of the standard names. -/
theorem ofNames_standardNames : ofNames standardNames = .ok standard := by
  rfl

end FunctionTable

end DisplayFilter
