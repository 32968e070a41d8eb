import DisplayFilter.Value.Basic

/-!
# Functions

A filter may pass a field through a named function of one argument before it is compared.

* `Function` — a name with what it does, `Function.call` — the function of a value;
* `FunctionTable` — the functions that a parser accepts, sorted by name;
* `FunctionTable.longestAt?` — the function with the longest name that a text starts with.
-/

namespace DisplayFilter

/-- **A function.** It gives a value or the message of its failure. -/
structure Function where
  name : String
  apply : Value → Except String Value

/-- Two functions are taken for the same if their names are. -/
instance : BEq Function where
  beq f g := f.name == g.name

/-- The function of a value. -/
def Function.call (f : Function) (v : Value) : Except String Value :=
  f.apply v

/-- **A table of functions** by name. -/
abbrev FunctionTable := List (String × (Value → Except String Value))

namespace FunctionTable

/-- The table without any function. -/
def empty : FunctionTable := []

/-- A table with one more function, which takes the place of one with the same name. -/
def register (table : FunctionTable) (f : Function) : FunctionTable :=
  Entries.insert f.name f.apply table

/-- The function registered under a name. -/
def get? (table : FunctionTable) (name : String) : Option Function :=
  (Entries.find? name table).map fun apply => ⟨name, apply⟩

/-- The names in order. -/
def names (table : FunctionTable) : List String :=
  Entries.keys table

/-- **The function with the longest name** that a text starts with. -/
def longestAt? (table : FunctionTable) (s : List Char) : Option Function :=
  (Text.longestStart? table.names s).bind table.get?

end FunctionTable

end DisplayFilter
