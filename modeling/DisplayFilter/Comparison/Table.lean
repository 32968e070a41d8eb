import DisplayFilter.Comparison.Comparator
import DisplayFilter.Tree.Basic
import DisplayFilter.Tree.Text

/-!
# Deciding comparisons

Each operator has a list of comparators. The first one that accepts both sides decides, but a "no"
of an operator other than `!=` lets the next one try: two texts that are different numbers may still
be equal strings.

* `ComparatorTable` — the comparators of each operator, `ComparatorTable.withEngine` — the usual ones;
* `overItems` — lists match if an item does, and differ if all items do;
* `ComparatorTable.consulted` — the comparators that have a say, with their answers;
* `ComparatorTable.evaluate` — whether a value satisfies an expression;
* `ComparatorTable.trace` — the consulted comparators in words.
-/

namespace DisplayFilter

/-- **The comparators of each operator,** in the order in which they are asked. -/
def ComparatorTable := Operator → List Comparator

/-- A comparison of a single value: what cannot be compared is different. -/
def settled (c : Comparator) (op : Operator) (literal : Literal) (item : Value) : Bool :=
  (c.compare? op literal item).getD (op == .ne)

/-- **Lists.** A list that is not empty matches if one of its items does; it differs if all of them
do. -/
def overItems (c : Comparator) (op : Operator) (literal : Literal) : Value → Bool
  | .list [] => settled c op literal (.list [])
  | .list items =>
    if op = .ne then items.all (settled c op literal) else items.any (settled c op literal)
  | v => settled c op literal v

/-- **The comparators that have a say,** with their answers. Those that do not accept both sides are
passed over; a "yes", or any answer about `!=`, ends the inquiry. -/
def consult (op : Operator) (literal : Literal) (item : Value) :
    List Comparator → List (Comparator × Bool)
  | [] => []
  | c :: more =>
    if c.accepts literal item then
      let answer := overItems c op literal item
      (c, answer) :: if answer || op == .ne then [] else consult op literal item more
    else consult op literal item more

namespace ComparatorTable

/-- The table without any comparator. -/
def empty : ComparatorTable := fun _ => []

/-- A table with other comparators for one operator. -/
def replace (table : ComparatorTable) (op : Operator) (comparators : List Comparator) :
    ComparatorTable :=
  fun other => if other = op then comparators else table other

/-- **The usual comparators,** given the engine that looks for patterns. -/
def withEngine (engine : PatternEngine) : ComparatorTable
  | .eq | .ne => [.number, .ipv4, .ipv6, .string engine]
  | .search | .contains => [.string engine]
  | .ge | .gt | .le | .lt => [.ipv4, .ipv6, .date, .number]
  | .bitAnd => [.integer]
  | .member => [.addressRange, .list]

/-- The usual comparators with the usual engine. -/
def standard : ComparatorTable := withEngine .standard

/-- The comparators that have a say about a comparison, with their answers. -/
def consulted (table : ComparatorTable) (c : Comparison) (item : Value) :
    List (Comparator × Bool) :=
  consult c.operator c.literal item (table c.operator)

/-- **Evaluating.** Whether a value satisfies an expression: without a comparison it has to be
present; with one, a comparator has to say "yes". -/
def evaluate (table : ComparatorTable) (e : Expression) (item : Value) : Bool :=
  match e.comparison with
  | none => item.isPresent
  | some c => (table.consulted c item).any (·.2)

/-- The line of a consulted comparator. -/
def traceLine (c : Comparison) (item : Value) (comparator : Comparator) (answer : Bool) : String :=
  comparator.name ++ " evaluator: " ++ item.text ++ " " ++ c.operator.symbol ++ " "
    ++ c.literal.display ++ " = " ++ (if answer then "true" else "false")

/-- **The lines of the consulted comparators,** in order. -/
def trace (table : ComparatorTable) (e : Expression) (item : Value) : List String :=
  match e.comparison with
  | none => []
  | some c => (table.consulted c item).map fun (comparator, answer) =>
      traceLine c item comparator answer

end ComparatorTable

end DisplayFilter
