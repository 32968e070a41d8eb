import DisplayFilter.CommandLine.Run

/-!
# The program

The outer layer: it reads what a run needs, has it done and writes what comes out of it.

* `readFile` — the bytes of a file, if it can be read;
* `timed` — a value with the time that it took;
* `runShell` — commands read and replied to one by one;
* `runProgram`, `main` — a run.
-/

namespace DisplayFilter

/-- The bytes of the file at a path, if it can be read. -/
def readFile (path : String) : IO (Option (List UInt8)) := do
  match ← (IO.FS.readBinFile path).toBaseIO with
  | .ok bytes => pure (some bytes.toList)
  | .error _ => pure none

/-- The variables that matter, as they are set. -/
def readVariables : IO (String → Option String) := do
  let names := ["DFQL_CONFIG", "RUST_LOG", "CLICOLOR", "CLICOLOR_FORCE", "NO_COLOR"]
  let pairs ← names.mapM fun name => do pure (name, ← IO.getEnv name)
  pure fun name => (pairs.lookup name).join

/-- A value with the time that it took. -/
def timed {α : Type} (value : Unit → α) : IO (α × Nanoseconds) := do
  let start ← IO.monoNanosNow
  let result ← IO.lazyPure value
  let stop ← IO.monoNanosNow
  pure (result, stop - start)

/-- Commands from the input, each replied to at once, until one ends the shell or there are no
more. -/
partial def runShell (sh : Shell) (r : Reporting) (st : ShellState) : IO Unit := do
  let stdout ← IO.getStdout
  stdout.putStr sh.rules.prompt
  stdout.flush
  let line ← (← IO.getStdin).getLine
  if line.isEmpty then stdout.putStr "\n"
  else
    let (reply, elapsed) ← timed fun _ => sh.execute st (ShellCommand.ofLine line)
    (← IO.getStderr).putStr (r.rules.text reply.log)
    stdout.putStr (reply.output.render elapsed)
    if reply.goesOn then runShell sh r reply.after

/-- An outcome, written. -/
def finish (o : Outcome) : IO UInt32 := do
  (← IO.getStderr).putStr o.stderr
  (← IO.getStdout).putStr o.stdout
  pure o.code.toUInt32

/-- A job, done. -/
def runJob (r : Reporting) : Job → IO UInt32
  | .query f text d output => do
    let (result, elapsed) ← timed fun _ => ResultTable.query f text d
    finish (.ofQuery r elapsed output result)
  | .shell sh => do
    (← IO.getStdout).putStr sh.greeting
    runShell sh r (ShellState.start r.rules.start)
    pure 0
  | job => finish (job.outcome r 0 "")

/-- **A run:** the settings and the records are read, then the job is done. -/
def runProgram (args : List String) : IO UInt32 := do
  let variableOf ← readVariables
  match Arguments.ofList (variableOf "DFQL_CONFIG") args with
  | .error e => finish e.outcome
  | .ok a =>
    let terminal ← (← IO.getStdout).isTty
    let r := Reporting.ofArguments a variableOf terminal
    (← IO.getStderr).putStr r.rules.warningText
    let paths := a.config.toList ++ [a.task.file]
    let files ← paths.mapM fun path => do pure (path, ← readFile path)
    let w : World := ⟨variableOf, fun path => (files.lookup path).join, "", terminal⟩
    let (before, job) := CommandLine.prepare r w a
    (← IO.getStderr).putStr before
    match job with
    | .error f => finish (.failed r "" f)
    | .ok job => runJob r job

end DisplayFilter

/-- The program. -/
def main (args : List String) : IO UInt32 :=
  DisplayFilter.runProgram args
