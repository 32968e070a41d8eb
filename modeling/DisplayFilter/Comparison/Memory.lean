import DisplayFilter.Comparison.Table
import DisplayFilter.Pattern.Cache

/-!
# Comparators that remember patterns

A table of comparators lives as long as the filter that it belongs to, and the string comparators in
it remember the patterns that they have read.  Here a comparison takes what is remembered and gives
it back as it is afterwards, from one item of a list to the next and from one comparator to the
next.

* `Remembering.string` — the string comparator with its cache, `Remembering.strings` — comparisons
  one after the other;
* `Memory` — the caches of all string comparators of a table;
* `Remembering.Table` — a table whose string comparators remember;
* `Remembering.evaluate` — whether a value satisfies an expression, with the lines on the way.
-/

namespace DisplayFilter

/-! ### Strings -/

namespace Remembering

section Strings

variable (engine : PatternEngine)

/-- How a string compares with another one: a pattern is searched for with the cache. -/
def compareStrings (op : Operator) (expected actual : String) :
    StateM (PatternCache engine) (Option Bool) :=
  match op with
  | .search => do
    let found ← modifyGet (·.search expected actual)
    return some found
  | op => return Comparator.compareStrings? engine op expected actual

/-- **The string comparator with its cache.** -/
def string (op : Operator) (literal : Literal) (item : Value) :
    StateM (PatternCache engine) (Option Bool) :=
  match literal.text?, item.string? with
  | some expected, some actual => compareStrings engine op (decodedText expected) actual
  | _, _ => return none

/-- Comparisons of one string comparator, one after the other. -/
def strings :
    List (Operator × Literal × Value) → StateM (PatternCache engine) (List (Option Bool))
  | [] => return []
  | (op, literal, item) :: more => do
    let answer ← string engine op literal item
    return answer :: (← strings more)

end Strings

end Remembering

variable {engine : PatternEngine}

/-! ### Memories -/

/-- **What is remembered:** every string comparator has a cache of its own, at its place. -/
abbrev Memory (engine : PatternEngine) := Nat → PatternCache engine

namespace Memory

/-- The memory in which nothing was read yet. -/
def empty : Memory engine := fun _ => []

/-- The memory with another cache at one place. -/
def replace (memory : Memory engine) (place : Nat) (cache : PatternCache engine) : Memory engine :=
  fun other => if other = place then cache else memory other

end Memory

namespace Remembering

/-- **A comparator in a table:** one that remembers nothing, or the string comparator of an engine
with the cache at a place of the memory. -/
inductive Asked (engine : PatternEngine) where
  | plain (c : Comparator)
  | string (place : Nat)

namespace Asked

/-- The comparator without its memory. -/
def forget : Asked engine → Comparator
  | plain c => c
  | string _ => .string engine

/-- How a value compares with a literal. -/
def compare (op : Operator) (literal : Literal) (item : Value) :
    Asked engine → StateM (Memory engine) (Option Bool)
  | plain c => return c.compare? op literal item
  | string place => modifyGet fun memory =>
    let (answer, cache) := (Remembering.string engine op literal item).run (memory place)
    (answer, memory.replace place cache)

end Asked

/-! ### Tables -/

/-- **A table whose string comparators remember.** The same one may stand at several operators. -/
def Table (engine : PatternEngine) := Operator → List (Asked engine)

namespace Table

/-- The table without its memory. -/
def forget (table : Table engine) : ComparatorTable :=
  fun op => (table op).map Asked.forget

/-- **The usual comparators.** All operators share one string comparator. -/
def standard : Table engine
  | .eq | .ne => [.plain .number, .plain .ipv4, .plain .ipv6, .string 0]
  | .search | .contains => [.string 0]
  | .ge | .gt | .le | .lt => [.plain .ipv4, .plain .ipv6, .plain .date, .plain .number]
  | .bitAnd => [.plain .integer]
  | .member => [.plain .addressRange, .plain .list]

/-- Without their memory they are the usual comparators of their engine. -/
theorem forget_standard :
    (standard : Table engine).forget = ComparatorTable.withEngine engine := by
  funext op
  cases op <;> rfl

end Table

/-- A comparison of a single value: what cannot be compared is different. -/
def settled (c : Asked engine) (op : Operator) (literal : Literal) (item : Value) :
    StateM (Memory engine) Bool :=
  return (← c.compare op literal item).getD (op == .ne)

/-- Whether one of some values matches.  The first one that does ends the comparison. -/
def anySettled (c : Asked engine) (op : Operator) (literal : Literal) :
    List Value → StateM (Memory engine) Bool
  | [] => return false
  | item :: items => do
    if ← settled c op literal item then return true else anySettled c op literal items

/-- Whether all of some values match.  The first one that does not ends the comparison. -/
def allSettled (c : Asked engine) (op : Operator) (literal : Literal) :
    List Value → StateM (Memory engine) Bool
  | [] => return true
  | item :: items => do
    if ← settled c op literal item then allSettled c op literal items else return false

/-- **Lists.** A list that is not empty matches if one of its items does; it differs if all of them
do. -/
def overItems (c : Asked engine) (op : Operator) (literal : Literal) :
    Value → StateM (Memory engine) Bool
  | .list [] => settled c op literal (.list [])
  | .list items =>
    if op = .ne then allSettled c op literal items else anySettled c op literal items
  | v => settled c op literal v

/-- **The comparators that have a say,** with their answers. -/
def consult (op : Operator) (literal : Literal) (item : Value) :
    List (Asked engine) → StateM (Memory engine) (List (Comparator × Bool))
  | [] => return []
  | c :: more =>
    if c.forget.accepts literal item then do
      let answer ← overItems c op literal item
      if answer || op == .ne then return [(c.forget, answer)]
      else return (c.forget, answer) :: (← consult op literal item more)
    else consult op literal item more

/-- **Evaluating.** Whether a value satisfies an expression, and the lines of the comparators that
were consulted. -/
def evaluate (table : Table engine) (e : Expression) (item : Value) :
    StateM (Memory engine) (Bool × List String) :=
  match e.comparison with
  | none => return (item.isPresent, [])
  | some c => do
    let consulted ← consult c.operator c.literal item (table c.operator)
    return (consulted.any (·.2), consulted.map fun (comparator, answer) =>
      ComparatorTable.traceLine c item comparator answer)

end Remembering

end DisplayFilter
