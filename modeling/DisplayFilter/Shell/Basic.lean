import DisplayFilter.Settings
import DisplayFilter.Shell.Command
import DisplayFilter.Table.Fields
import DisplayFilter.Table.Result

/-!
# The shell

The shell applies filters to one dataset, command by command. What it writes depends on the dataset
and its settings alone; what is heard of the log depends on the commands before.

* `Shell` — a shell over a dataset, `ShellState` — what changes from command to command;
* `ShellOutput` — what a command writes;
* `Shell.execute` — the reply to one command;
* `Transcript`, `Shell.run` — the replies to all lines of a text.
-/

namespace DisplayFilter

/-! ### Shells and their states -/

/-- **A shell over a dataset.** -/
structure Shell where
  dataset : Dataset
  filter : Filter
  rules : ShellSettings := {}
  /-- Whether the fields of nested maps are listed one by one. -/
  nestedFields : Bool := true

/-- **What changes from command to command.** -/
structure ShellState where
  /-- How much of the log is heard. -/
  level : Level
  /-- Whether the shell is in debug mode. -/
  debug : Bool
  deriving DecidableEq, Repr

namespace ShellState

/-- The state at the start, given how much of the log is heard. -/
def start (level : Level) : ShellState :=
  ⟨level, Level.debug.within level⟩

/-- The state with the other mode. -/
def toggled (st : ShellState) : ShellState :=
  if st.debug then ⟨.info, false⟩ else ⟨.debug, true⟩

end ShellState

/-! ### Replies -/

/-- **What a command writes.** -/
inductive ShellOutput where
  | text (s : String)
  /-- A table, with the time that its query took. -/
  | table (t : ResultTable)

/-- The text of an output, given the time that the command took. -/
def ShellOutput.render (elapsed : Nanoseconds) : ShellOutput → String
  | text s => s
  | table t => t.render elapsed

/-- **The reply to a command.** -/
structure ShellReply where
  output : ShellOutput
  /-- The lines of the log that are heard. -/
  log : List LogLine
  after : ShellState
  /-- Whether the shell waits for more commands. -/
  goesOn : Bool

namespace Shell

/-- The fields that filters may use, or those of the records. -/
def fields (sh : Shell) : List String :=
  if sh.filter.parser.fieldNames.isEmpty then fieldNames sh.nestedFields sh.dataset.records
  else sh.filter.parser.fieldNames

/-- Names one below the other. -/
def nameLines (names : List String) : String :=
  String.join (names.map (· ++ "\n"))

/-- The lines about a query without a result. -/
def failureLog : QueryError → List LogLine
  | .parsing e => [⟨.error, "Invalid display filter!"⟩, ⟨.debug, e.message⟩]
  | .evaluation e =>
    [⟨.error, "There was an unknown error evaluating the results!"⟩, ⟨.debug, e.message⟩]

/-- What a filter writes, and the lines of the log. -/
def applyFilter (sh : Shell) (text : String) : ShellOutput × List LogLine :=
  if (Text.trim text.toList).isEmpty then
    (.text "", [⟨.error, "No arguments supplied to filter function."⟩])
  else
    match ResultTable.query sh.filter text sh.dataset with
    | (.ok t, log) => (.table t, log)
    | (.error e, log) => (.text "", log ++ failureLog e)

/-- The line about the mode of a shell. -/
def modeLine (debug : Bool) : LogLine :=
  ⟨.warn, if debug then "Debug mode enabled" else "Debug mode disabled"⟩

/-- **The reply to one command.** -/
def execute (sh : Shell) (st : ShellState) : ShellCommand → ShellReply
  | .filter text =>
    let (output, log) := sh.applyFilter text
    ⟨output, heard st.level log, st, true⟩
  | .fields => ⟨.text (nameLines sh.fields), [], st, true⟩
  | .debug => ⟨.text "", heard st.toggled.level [modeLine st.toggled.debug], st.toggled, true⟩
  | .help => ⟨.text ShellCommand.helpText, [], st, true⟩
  | .exit => ⟨.text "", [], st, false⟩
  | .empty => ⟨.text "", [], st, true⟩
  | .unknown line => ⟨.text ("*** Unknown syntax: " ++ line ++ "\n"), [], st, true⟩

end Shell

/-! ### Runs -/

/-- **What a shell wrote,** the lines of the log that were heard, and the state at the end. -/
structure Transcript where
  outputs : List ShellOutput
  log : List LogLine
  after : ShellState

/-- The text of a transcript, given the times that the commands took, each behind its prompt. -/
def Transcript.render (elapsed : Nat → Nanoseconds) (t : Transcript) : String :=
  String.join (t.outputs.zipIdx.map fun (output, number) => output.render (elapsed number))

/-- The lines of a text; the last one may have no end. -/
def inputLines (text : String) : List String :=
  let lines := Text.pieces '\n' text.toList
  (if lines.getLast? = some [] then lines.dropLast else lines).map String.ofList

namespace Shell

/-- The replies to some lines with a prompt in front of each, up to the first one that ends the
shell. Behind the last line stands one more prompt, and the line ends. -/
def runLines (sh : Shell) (st : ShellState) : List String → Transcript
  | [] => ⟨[.text sh.rules.prompt, .text "\n"], [], st⟩
  | line :: lines =>
    let reply := sh.execute st (ShellCommand.ofLine line)
    if reply.goesOn then
      let rest := sh.runLines reply.after lines
      ⟨.text sh.rules.prompt :: reply.output :: rest.outputs, reply.log ++ rest.log, rest.after⟩
    else ⟨[.text sh.rules.prompt, reply.output], reply.log, reply.after⟩

/-- What a shell writes first. -/
def greeting (sh : Shell) : String :=
  sh.rules.intro ++ "\n"

/-- **A run:** the greeting, then the replies to the lines of a text. -/
def run (sh : Shell) (st : ShellState) (text : String) : Transcript :=
  let rest := sh.runLines st (inputLines text)
  { rest with outputs := .text sh.greeting :: rest.outputs }

end Shell

end DisplayFilter
