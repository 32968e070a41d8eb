import DisplayFilter.Comparison.Table
import DisplayFilter.Record
import DisplayFilter.Reduction
import DisplayFilter.Slice.Slicer
import DisplayFilter.Tree.Dump
import DisplayFilter.Tree.Parser

/-!
# Display filters

A display filter is what it takes to parse filters and to apply them to records: a parser, a table
of comparators and slicers.

* `Level`, `LogLine` — lines that tell what happened on the way;
* `Filter` — a display filter, with the functions that replace its parts;
* `Filter.resolve` — the value that an expression compares;
* `Filter.inspect` — a tree reduced for a record, `Filter.satisfies` — its truth value;
* `Selection` — records on their way through a filter, `Selection.next` — the next that matches;
* `Filter.select`, `Selection.collect` — all of them.
-/

namespace DisplayFilter

/-! ### Log lines -/

/-- **How important a line is,** and how much is to be heard. -/
inductive Level where
  | off
  | error
  | warn
  | info
  | debug
  | trace
  deriving DecidableEq, Repr

namespace Level

/-- The rank of a level: more is heard at a higher one. -/
def rank : Level → Nat
  | off => 0
  | error => 1
  | warn => 2
  | info => 3
  | debug => 4
  | trace => 5

/-- The word for a level. -/
def name : Level → String
  | off => "OFF"
  | error => "ERROR"
  | warn => "WARN"
  | info => "INFO"
  | debug => "DEBUG"
  | trace => "TRACE"

/-- Whether a line of this level is heard at a greatest level. -/
def within (level greatest : Level) : Bool :=
  level.rank ≤ greatest.rank

end Level

/-- A line of the log. -/
structure LogLine where
  level : Level
  text : String
  deriving DecidableEq, Repr

/-- The lines that are heard at a greatest level. -/
def heard (greatest : Level) (lines : List LogLine) : List LogLine :=
  lines.filter fun line => line.level.within greatest

/-! ### Filters -/

/-- **A display filter.** -/
structure Filter where
  parser : Parser := {}
  comparators : ComparatorTable := ComparatorTable.standard
  slicers : SlicerSet := Slicer.all

namespace Filter

/-- The filter for some fields only; without any, all fields are admitted. -/
def withFieldNames (f : Filter) (names : List String) : Filter :=
  { f with parser := { f.parser with fieldNames := names } }

/-- The filter with other functions. -/
def withFunctions (f : Filter) (functions : FunctionTable) : Filter :=
  { f with parser := { f.parser with functions := functions } }

/-- The filter with other comparators. -/
def withComparators (f : Filter) (comparators : ComparatorTable) : Filter :=
  { f with comparators := comparators }

/-- The filter with other slicers. -/
def withSlicers (f : Filter) (slicers : SlicerSet) : Filter :=
  { f with slicers := slicers }

/-- Parse a filter. -/
def parse (f : Filter) (text : String) : Except ParseError FilterTree :=
  f.parser.parse text

/-- The lines that parsing a text to a tree writes. -/
def parsingLog (text : String) (tree : FilterTree) : List LogLine :=
  if tree.isEmpty then []
  else [⟨.debug, "Parsed display filter '" ++ text ++ "' into " ++ FilterTree.dump tree⟩]

/-- The value of a field, sliced if the expression says so. -/
def sliced (f : Filter) (e : Expression) (record : Record) : Except EvaluationError Value :=
  match e.slice with
  | none => .ok (record.resolve e.field)
  | some slice => (f.slicers.slice slice (record.resolve e.field)).mapError .slice

/-- **The value that an expression compares:** the field, sliced and then passed through the
function. -/
def resolve (f : Filter) (e : Expression) (record : Record) : Except EvaluationError Value := do
  let v ← f.sliced e record
  match e.function with
  | none => pure v
  | some function => (function.call v).mapError (.function function.name)

/-- Whether a record satisfies an expression. -/
def leaf (f : Filter) (record : Record) (e : Expression) : Except EvaluationError Bool :=
  (f.resolve e record).map (f.comparators.evaluate e)

/-- **A tree reduced for a record.** -/
def inspect (f : Filter) (tree : FilterTree) (record : Record) : Reduction Bool :=
  if tree.isEmpty then ⟨[], .ok true⟩ else reduce (f.leaf record) tree

/-- **Whether a record satisfies a tree.** Every record satisfies the empty tree. -/
def satisfies (f : Filter) (tree : FilterTree) (record : Record) : Except EvaluationError Bool :=
  (f.inspect tree record).result

/-- The lines of the comparators that an expression consults. -/
def leafLog (f : Filter) (record : Record) (e : Expression) : List LogLine :=
  match f.resolve e record with
  | .ok v => (f.comparators.trace e v).map (⟨.debug, ·⟩)
  | .error _ => []

/-- The lines that reducing a tree for a record writes. -/
def inspectLog (f : Filter) (tree : FilterTree) (record : Record) : List LogLine :=
  (f.inspect tree record).visited.flatMap (f.leafLog record)

end Filter

/-! ### Selections -/

/-- **Records on their way through a filter.** -/
structure Selection where
  filter : Filter
  tree : FilterTree
  /-- The records that were not looked at yet. -/
  records : List Record
  /-- Whether a structural error has ended the selection. -/
  failed : Bool := false

/-- **A step of a selection:** what it yields, if it does, the lines on the way and the selection
after it. -/
structure Step where
  item : Option (Except EvaluationError Record)
  log : List LogLine
  after : Selection

/-- The warning about a record that cannot be evaluated. -/
def skipping (e : EvaluationError) : LogLine :=
  ⟨.warn, "Skipping record: " ++ e.message⟩

/-- The next of some records that satisfies a tree. Records whose own data cannot be evaluated are
skipped with a warning; a structural error is yielded and ends the selection. -/
def nextOf (f : Filter) (tree : FilterTree) : List Record → Step
  | [] => ⟨none, [], ⟨f, tree, [], false⟩⟩
  | record :: records =>
    let log := f.inspectLog tree record
    match f.satisfies tree record with
    | .ok true => ⟨some (.ok record), log, ⟨f, tree, records, false⟩⟩
    | .ok false =>
      let step := nextOf f tree records
      { step with log := log ++ step.log }
    | .error e =>
      if e.isStructural then ⟨some (.error e), log, ⟨f, tree, records, true⟩⟩
      else
        let step := nextOf f tree records
        { step with log := log ++ skipping e :: step.log }

/-- **The next item** of a selection: nothing behind a structural error. -/
def Selection.next (s : Selection) : Step :=
  if s.failed then ⟨none, [], s⟩ else nextOf s.filter s.tree s.records

/-- The items of at most `polls` steps, with the lines on the way. -/
def Selection.take : Nat → Selection → List (Except EvaluationError Record) × List LogLine
  | 0, _ => ([], [])
  | polls + 1, s =>
    let step := s.next
    match step.item with
    | none => ([], step.log)
    | some item =>
      let (items, log) := Selection.take polls step.after
      (item :: items, step.log ++ log)

/-- **All items** of a selection, with the lines on the way. -/
def Selection.collect (s : Selection) : List (Except EvaluationError Record) × List LogLine :=
  s.take (s.records.length + 1)

/-- The records that satisfy a tree. -/
def Filter.select (f : Filter) (tree : FilterTree) (records : List Record) : Selection where
  filter := f
  tree := tree
  records := records

/-- **Filtering.** The records that satisfy a filter text. -/
def Filter.filter (f : Filter) (text : String) (records : List Record) :
    Except ParseError Selection :=
  (f.parse text).map fun tree => f.select tree records

end DisplayFilter
