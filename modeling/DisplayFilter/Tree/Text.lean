import DisplayFilter.Tree.Basic

/-!
# The text of a filter tree

* `Expression.text` — an expression as it is written in a filter;
* `FilterTree.text` — the canonical text of a filter: groups stand in parentheses, a group that is
  the whole tree does not.
-/

namespace DisplayFilter

namespace Expression

/-- The field with its slice, as the argument of the function if there is one. -/
def subject (e : Expression) : List Char :=
  let sliced := e.field.toList ++ ((e.slice.map Slice.chars).getD [])
  match e.function with
  | none => sliced
  | some f => f.name.toList ++ '(' :: sliced ++ [')']

/-- The characters of an expression. -/
def chars (e : Expression) : List Char :=
  match e.comparison with
  | none => e.subject
  | some c => e.subject ++ ' ' :: c.operator.symbol.toList ++ ' ' :: c.literal.chars

/-- **The text of an expression.** -/
def text (e : Expression) : String :=
  String.ofList e.chars

end Expression

mutual

/-- The characters of a node. -/
def Node.chars : Node → List Char
  | .leaf e => e.chars
  | .group nodes => '(' :: FilterTree.sequence nodes ++ [')']
  | .connective c => c.word.toList
termination_by structural n => n

/-- The characters of some nodes with a blank between neighbours. -/
def FilterTree.sequence : List Node → List Char
  | [] => []
  | n :: nodes => n.chars ++ FilterTree.followers nodes
termination_by structural nodes => nodes

/-- The characters of some nodes, a blank in front of each. -/
def FilterTree.followers : List Node → List Char
  | [] => []
  | n :: nodes => ' ' :: n.chars ++ FilterTree.followers nodes
termination_by structural nodes => nodes

end

/-- The characters of a filter. -/
def FilterTree.chars : FilterTree → List Char
  | [.group nodes] => FilterTree.sequence nodes
  | nodes => FilterTree.sequence nodes

/-- **The canonical text of a filter.** -/
def FilterTree.text (tree : FilterTree) : String :=
  String.ofList (FilterTree.chars tree)

end DisplayFilter
