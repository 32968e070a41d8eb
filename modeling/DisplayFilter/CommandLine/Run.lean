import DisplayFilter.CommandLine.Arguments
import DisplayFilter.CommandLine.Help
import DisplayFilter.CommandLine.Logging
import DisplayFilter.Shell.Basic

/-!
# Runs of the program

A run reads its arguments, the settings and the records, and then has a job that it does or a
failure that it reports. What the world has to offer — variables, files, input — is a value, so that
a run is a function of it.

* `World` — what the world has to offer, `Outcome` — what a run leaves behind;
* `Failure` — why there is no result;
* `Job` — what is left to do when everything is read, `Job.ofTask` — the job of a task;
* `Job.outcome` — a job done;
* `CommandLine.run` — a whole run.
-/

namespace DisplayFilter

/-! ### The world -/

/-- **What the world has to offer.** -/
structure World where
  /-- The variables that are set outside. -/
  variableOf : String → Option String
  /-- The bytes of the file at a path. -/
  file : String → Option (List UInt8)
  /-- The text that is typed in. -/
  input : String := ""
  /-- Whether output is shown on a terminal. -/
  terminal : Bool := false

/-- **What a run leaves behind.** -/
structure Outcome where
  code : Nat
  stdout : String
  stderr : String
  deriving DecidableEq, Repr

/-- **Why there is no result:** a cause, and what was being done. -/
structure Failure where
  context : Option String
  cause : String
  deriving DecidableEq, Repr

namespace Failure

/-- A failure on one line. -/
def text (f : Failure) : String :=
  f.context.elim f.cause fun context => context ++ ": " ++ f.cause

/-- A failure on several lines. -/
def report (f : Failure) : String :=
  f.context.elim f.cause fun context => context ++ "\n\nCaused by:\n    " ++ f.cause

end Failure

/-! ### Colors -/

/-- Whether colors are asked for where there is no terminal. -/
def forcesColor (variableOf : String → Option String) : Bool :=
  (variableOf "CLICOLOR_FORCE").any (· != "0")

/-- **Whether failures are colored.** To ask for colors counts more than to refuse them. -/
def usesColor (mode : ColorMode) (variableOf : String → Option String) (terminal : Bool) : Bool :=
  if mode = .always || forcesColor variableOf then true
  else if mode = .never || (variableOf "NO_COLOR").isSome then false
  else terminal && variableOf "CLICOLOR" != some "0"

/-- A text in red. -/
def inRed (text : String) : String :=
  "\x1b[31m" ++ text ++ "\x1b[0m"

/-! ### Jobs -/

/-- **What is left to do** when everything is read. -/
inductive Job where
  | query (filter : Filter) (text : String) (dataset : Dataset) (output : OutputFormat)
  | shell (sh : Shell)
  | list (names : List String)

/-- The settings at a path; without a path all of them have their defaults. -/
def settingsAt (file : String → Option (List UInt8)) : Option String → Except Failure Settings
  | none => .ok {}
  | some path =>
    ((file path).elim (.error .unreadable) Settings.read).mapError fun e =>
      ⟨some "Failed to load config", e.message path⟩

/-- The records at a path. -/
def datasetAt (file : String → Option (List UInt8)) (format : Format) (path : String) :
    Except Failure Dataset :=
  ((file path).elim (.error .unreadable) (Dataset.read format)).mapError fun e =>
    ⟨none, e.message path⟩

/-- The filter of the settings; fields that are given take the place of those in the settings. -/
def taskFilter (s : Settings) (fields : Option (List String)) : Except Failure Filter :=
  (s.displayFilter.mapError fun e => ⟨none, e.message ""⟩).map fun f =>
    match fields with
    | some (name :: names) => f.withFieldNames (name :: names)
    | _ => f

/-- **The job of a task,** given the settings and the records. -/
def Job.ofTask (s : Settings) (d : Dataset) : Task → Except Failure Job
  | .query _ text _ fields output =>
    (taskFilter s fields).map fun f => .query f (text.getD "") d output
  | .shell _ _ fields =>
    (taskFilter s fields).map fun f =>
      .shell { dataset := d, filter := f, rules := s.shell, nestedFields := s.table.nestedFields }
  | .fields _ _ flat =>
    .ok (.list (s.allowedFields?.getD (fieldNames (s.table.nestedFields && !flat) d.records)))

/-- What a query shows, given the time that it took. -/
def OutputFormat.textOf (elapsed : Nanoseconds) (t : ResultTable) : OutputFormat → String
  | table => t.render elapsed
  | json => t.json ++ "\n"

/-- The failure of a query without a result. -/
def QueryError.failure : QueryError → Failure
  | parsing e => ⟨some "Invalid display filter", e.message⟩
  | evaluation e => ⟨some "Failed to evaluate display filter", e.message⟩

/-! ### Outcomes -/

/-- How a run reports: what is written of the log, and whether failures are colored. -/
structure Reporting where
  rules : LogRules
  colored : Bool

namespace Reporting

/-- The reporting that arguments and variables ask for. -/
def ofArguments (a : Arguments) (variableOf : String → Option String) (terminal : Bool) :
    Reporting where
  rules :=
    { (variableOf "RUST_LOG").elim (LogRules.ofVerbosity a.verbose) LogRules.ofText with
      colored := forcesColor variableOf && (variableOf "NO_COLOR").all String.isEmpty }
  colored := usesColor a.color variableOf terminal

/-- The lines of the log that are heard from the start. -/
def log (r : Reporting) (lines : List LogLine) : String :=
  r.rules.text (heard r.rules.start lines)

/-- A failure as it is reported. -/
def failure (r : Reporting) (f : Failure) : String :=
  r.log [⟨.debug, f.report⟩] ++ (if r.colored then inRed f.text else f.text) ++ "\n"

/-- What is reported about the settings at a path. -/
def loaded (r : Reporting) (path : Option String) : String :=
  path.elim "" fun path => r.log [⟨.debug, "Loaded config from " ++ path⟩]

end Reporting

/-- The outcome of a run that failed, given what was reported before. -/
def Outcome.failed (r : Reporting) (before : String) (f : Failure) : Outcome :=
  ⟨1, "", before ++ r.failure f⟩

/-- The outcome of a query with the lines of its log, given the time that it took. -/
def Outcome.ofQuery (r : Reporting) (elapsed : Nanoseconds) (output : OutputFormat) :
    Except QueryError ResultTable × List LogLine → Outcome
  | (.ok t, log) => ⟨0, output.textOf elapsed t, r.log log⟩
  | (.error e, log) => .failed r (r.log log) e.failure

/-- **A job done:** the time counts for queries only, the input for shells only. -/
def Job.outcome (r : Reporting) (elapsed : Nanoseconds) (input : String) : Job → Outcome
  | .query f text d output => .ofQuery r elapsed output (ResultTable.query f text d)
  | .shell sh =>
    let t := sh.run (ShellState.start r.rules.start) input
    ⟨0, t.render fun _ => elapsed, r.rules.text t.log⟩
  | .list names => ⟨0, Shell.nameLines names, ""⟩

/-- **The outcome of arguments that say nothing to do.** -/
def EarlyEnd.outcome : EarlyEnd → Outcome
  | error .noArguments => ⟨2, "", helpText none⟩
  | error e => ⟨2, "", "error: " ++ e.message ++ "\n\nFor more information, try '--help'.\n"⟩
  | help about => ⟨0, helpText about, ""⟩
  | version => ⟨0, versionText, ""⟩

namespace CommandLine

/-- The job of some arguments in a world, and what is reported on the way. -/
def prepare (r : Reporting) (w : World) (a : Arguments) : String × Except Failure Job :=
  match settingsAt w.file a.config with
  | .error e => ("", .error e)
  | .ok s =>
    (r.loaded a.config,
      (datasetAt w.file a.task.format a.task.file).bind fun d => Job.ofTask s d a.task)

/-- **A whole run** in a world. -/
def run (w : World) (elapsed : Nanoseconds) (args : List String) : Outcome :=
  match Arguments.ofList (w.variableOf "DFQL_CONFIG") args with
  | .error e => e.outcome
  | .ok a =>
    let r := Reporting.ofArguments a w.variableOf w.terminal
    let (before, job) := prepare r w a
    let before := r.rules.warningText ++ before
    match job with
    | .error f => .failed r before f
    | .ok job =>
      let o := job.outcome r elapsed w.input
      { o with stderr := before ++ o.stderr }

end CommandLine

end DisplayFilter
