import DisplayFilter.Comparison.Memory
import DisplayFilter.Shell.Basic

/-!
# Shells that remember patterns

A shell keeps its filter from command to command, and the filter keeps what its string comparators
have read.  Here everything on the way from a comparison to a whole run takes the memory and gives
it back.

* `Remembering.Filter`, `Remembering.Shell` — a filter and a shell whose string comparators
  remember, and `forget` — the same without a memory;
* `Remembering.inspect` — a tree reduced for a record, `Remembering.nextOf` — the next record that
  satisfies it;
* `Remembering.query` — the records of a dataset that satisfy a filter text;
* `Remembering.execute`, `Remembering.run` — the reply to a command, and the replies to all lines of
  a text.
-/

namespace DisplayFilter.Remembering

variable {engine : PatternEngine}

/-! ### Filters and shells -/

/-- **A display filter whose string comparators remember.** -/
structure Filter (engine : PatternEngine) where
  parser : Parser := {}
  table : Table engine := Table.standard
  slicers : SlicerSet := Slicer.all

/-- The filter without its memory. -/
def Filter.forget (f : Filter engine) : DisplayFilter.Filter :=
  ⟨f.parser, f.table.forget, f.slicers⟩

/-- **A shell whose string comparators remember.** -/
structure Shell (engine : PatternEngine) where
  dataset : Dataset
  filter : Filter engine := {}
  rules : ShellSettings := {}
  nestedFields : Bool := true

/-- The shell without its memory. -/
def Shell.forget (sh : Shell engine) : DisplayFilter.Shell :=
  ⟨sh.dataset, sh.filter.forget, sh.rules, sh.nestedFields⟩

/-! ### Trees -/

/-- Whether a record satisfies an expression, and the lines of the comparators. -/
def leaf (f : Filter engine) (record : Record) (e : Expression) :
    StateM (Memory engine) (Except EvaluationError Bool × List LogLine) :=
  match f.forget.resolve e record with
  | .error fault => return (.error fault, [])
  | .ok v => do
    let (answer, lines) ← evaluate f.table e v
    return (.ok answer, lines.map (⟨.debug, ·⟩))

variable
  (leaf : Expression → StateM (Memory engine) (Except EvaluationError Bool × List LogLine)) in
mutual

/-- The part of a row that a node becomes. -/
def reduceNode : Node → StateM (Memory engine) (Reduction Token × List LogLine)
  | .leaf e => do
    let (answer, log) ← leaf e
    return (⟨[e], answer.map .value⟩, log)
  | .group nodes => do
    let (r, log) ← reduceNodes nodes
    return (⟨r.folded.visited, r.folded.result.map .value⟩, log)
  | .connective c => return (⟨[], .ok (.connective c)⟩, [])
termination_by structural n => n

/-- The row that some nodes become.  Behind a failure nothing is evaluated. -/
def reduceNodes : List Node → StateM (Memory engine) (Reduction (List Token) × List LogLine)
  | [] => return (⟨[], .ok []⟩, [])
  | n :: nodes => do
    let (first, log) ← reduceNode n
    match first.result with
    | .error e => return (⟨first.visited, .error e⟩, log)
    | .ok token => do
      let (more, moreLog) ← reduceNodes nodes
      return (⟨first.visited ++ more.visited, more.result.map (token :: ·)⟩, log ++ moreLog)
termination_by structural nodes => nodes

end

/-- **A tree reduced for a record,** and the lines on the way. -/
def inspect (f : Filter engine) (tree : FilterTree) (record : Record) :
    StateM (Memory engine) (Reduction Bool × List LogLine) :=
  if tree.isEmpty then return (⟨[], .ok true⟩, [])
  else do
    let (r, log) ← reduceNodes (leaf f record) tree
    return (r.folded, log)

/-! ### Selections -/

/-- The next of some records that satisfies a tree. -/
def nextOf (f : Filter engine) (tree : FilterTree) : List Record → StateM (Memory engine) Step
  | [] => return ⟨none, [], ⟨f.forget, tree, [], false⟩⟩
  | record :: records => do
    let (r, log) ← inspect f tree record
    match r.result with
    | .ok true => return ⟨some (.ok record), log, ⟨f.forget, tree, records, false⟩⟩
    | .ok false => do
      let step ← nextOf f tree records
      return { step with log := log ++ step.log }
    | .error e =>
      if e.isStructural then return ⟨some (.error e), log, ⟨f.forget, tree, records, true⟩⟩
      else do
        let step ← nextOf f tree records
        return { step with log := log ++ skipping e :: step.log }

/-- **The next item** of a selection: nothing behind a structural error. -/
def next (f : Filter engine) (s : Selection) : StateM (Memory engine) Step :=
  if s.failed then return ⟨none, [], s⟩ else nextOf f s.tree s.records

/-- The items of at most `polls` steps, with the lines on the way. -/
def take (f : Filter engine) :
    Nat → Selection → StateM (Memory engine) (List (Except EvaluationError Record) × List LogLine)
  | 0, _ => return ([], [])
  | polls + 1, s => do
    let step ← next f s
    match step.item with
    | none => return ([], step.log)
    | some item => do
      let (items, log) ← take f polls step.after
      return (item :: items, step.log ++ log)

/-- **A query:** the records of a dataset that satisfy a filter text, and the lines of the log. -/
def query (f : Filter engine) (text : String) (d : Dataset) :
    StateM (Memory engine) (Except QueryError ResultTable × List LogLine) :=
  match f.parser.parse text with
  | .error e => return (.error (.parsing e), [])
  | .ok tree => do
    let (items, log) ← take f (d.records.length + 1) (f.forget.select tree (d.records.map .value))
    let log := DisplayFilter.Filter.parsingLog text tree ++ log
    match rowsOf items with
    | .error e => return (.error (.evaluation e), log)
    | .ok rows => return (.ok ⟨d.columns, rows⟩, log)

/-! ### Commands -/

/-- What a filter writes, and the lines of the log. -/
def applyFilter (sh : Shell engine) (text : String) :
    StateM (Memory engine) (ShellOutput × List LogLine) :=
  if (Text.trim text.toList).isEmpty then return sh.forget.applyFilter text
  else do
    match ← query sh.filter text sh.dataset with
    | (.ok t, log) => return (.table t, log)
    | (.error e, log) => return (.text "", log ++ Shell.failureLog e)

/-- **The reply to one command.** Filters alone use the comparators. -/
def execute (sh : Shell engine) (st : ShellState) : ShellCommand → StateM (Memory engine) ShellReply
  | .filter text => do
    let (output, log) ← applyFilter sh text
    return ⟨output, heard st.level log, st, true⟩
  | command => return sh.forget.execute st command

/-- The replies to some lines with a prompt in front of each, up to the first one that ends the
shell. -/
def runLines (sh : Shell engine) (st : ShellState) : List String → StateM (Memory engine) Transcript
  | [] => return ⟨[.text sh.rules.prompt, .text "\n"], [], st⟩
  | line :: lines => do
    let reply ← execute sh st (ShellCommand.ofLine line)
    if reply.goesOn then do
      let rest ← runLines sh reply.after lines
      return ⟨.text sh.rules.prompt :: reply.output :: rest.outputs, reply.log ++ rest.log,
        rest.after⟩
    else return ⟨[.text sh.rules.prompt, reply.output], reply.log, reply.after⟩

/-- **A run:** the greeting, then the replies to the lines of a text. -/
def run (sh : Shell engine) (st : ShellState) (text : String) :
    StateM (Memory engine) Transcript := do
  let rest ← runLines sh st (inputLines text)
  return { rest with outputs := .text sh.forget.greeting :: rest.outputs }

end DisplayFilter.Remembering
