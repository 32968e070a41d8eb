import DisplayFilter.Text.Pieces

/-!
# Operators and connectives

* `Operator` — the ten comparisons, `Operator.symbol` — their canonical spelling;
* `Operator.spellings`, `Operator.ofText?` — all spellings, in any case of letters;
* `Connective` — the words between comparisons, `Connective.word` — as they are written.
-/

namespace DisplayFilter

/-- **A comparison** of a field with a literal. -/
inductive Operator where
  | eq
  | ne
  | ge
  | gt
  | le
  | lt
  /-- The field contains the literal. -/
  | contains
  /-- The field matches the literal as a pattern. -/
  | search
  /-- The field is a member of the literal. -/
  | member
  /-- The field and the literal have a bit in common. -/
  | bitAnd
  deriving DecidableEq, Repr

namespace Operator

/-- All operators in order. -/
def all : List Operator :=
  [eq, ne, ge, gt, le, lt, contains, search, member, bitAnd]

/-- The canonical spelling. -/
def symbol : Operator → String
  | eq => "=="
  | ne => "!="
  | ge => ">="
  | gt => ">"
  | le => "<="
  | lt => "<"
  | contains => "~="
  | search => "~"
  | member => "in"
  | bitAnd => "&"

/-- **The spellings** in the order in which they are tried. -/
def spellings : List (String × Operator) :=
  [("==", eq), ("eq", eq), ("!=", ne), ("neq", ne), (">=", ge), ("ge", ge), (">", gt),
   ("gt", gt), ("<=", le), ("le", le), ("<", lt), ("lt", lt), ("~=", contains),
   ("contains", contains), ("~", search), ("matches", search), ("in", member), ("&", bitAnd)]

/-- The operator that a text spells in any case of letters. -/
def ofText? (s : String) : Option Operator :=
  (spellings.find? fun (word, _) => Text.equalCaseless word.toList s.toList).map (·.2)

/-- Every operator is in the list of all of them. -/
theorem mem_all (op : Operator) : op ∈ all := by
  cases op <;> decide

/-- The canonical spelling of an operator is one of its spellings. -/
theorem ofText?_symbol (op : Operator) : ofText? op.symbol = some op := by
  cases op <;> rfl

end Operator

/-- **A word between comparisons.** -/
inductive Connective where
  | not
  | and
  | or
  | xor
  deriving DecidableEq, Repr

namespace Connective

/-- The word for a connective in a filter. -/
def word : Connective → String
  | not => "not"
  | and => "and"
  | or => "or"
  | xor => "xor"

/-- **The spellings** of the connectives that stand between two operands, in the order in which
they are tried. -/
def spellings : List (String × Connective) :=
  [("and", and), ("&&", and), ("or", or), ("||", or), ("xor", xor), ("^^", xor), ("^", xor)]

end Connective

end DisplayFilter
