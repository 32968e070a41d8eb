import DisplayFilter.Function.Basic
import DisplayFilter.Literal.Basic
import DisplayFilter.Slice.Basic
import DisplayFilter.Tree.Operator

/-!
# Filter trees

A parsed filter is a sequence of comparisons, groups and connectives. Operators keep the order in
which they were written: `a` is `[a]`, `a and b` is `[[a, and, b]]`, `not a` is `[[not, a]]`, and
`a and (b or c)` is `[[a, and, [b, or, c]]]`.

* `Comparison`, `Expression` — a field, sliced and passed through a function, and what it is
  compared with;
* `Node`, `FilterTree` — the parts of a filter;
* `FilterTree.leaves` — the expressions from left to right.
-/

namespace DisplayFilter

/-- An operator with its right side. An expression has both of them or neither. -/
structure Comparison where
  operator : Operator
  literal : Literal
  deriving DecidableEq

/-- **An expression.** Without a comparison it asks whether the field is present. -/
structure Expression where
  field : String
  slice : Option Slice := none
  function : Option Function := none
  comparison : Option Comparison := none
  deriving BEq

/-- **A part of a filter.** -/
inductive Node where
  | leaf (e : Expression)
  /-- A sequence in parentheses, or one with connectives in it. -/
  | group (nodes : List Node)
  | connective (c : Connective)
  deriving BEq

/-- **A filter.** The empty tree matches every record. -/
abbrev FilterTree := List Node

mutual

/-- The expressions of a node from left to right. -/
def Node.leaves : Node → List Expression
  | .leaf e => [e]
  | .group nodes => FilterTree.leaves nodes
  | .connective _ => []
termination_by structural n => n

/-- The expressions of a tree from left to right. -/
def FilterTree.leaves : List Node → List Expression
  | [] => []
  | n :: nodes => n.leaves ++ FilterTree.leaves nodes
termination_by structural nodes => nodes

end

end DisplayFilter
