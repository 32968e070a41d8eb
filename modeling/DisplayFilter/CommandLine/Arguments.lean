import DisplayFilter.CommandLine.Options

/-!
# Arguments of the command line

Arguments are options, then a subcommand, then its options and words. An option that is admitted
everywhere counts where it was given; behind the subcommand it wins.

* `Task` — a subcommand with what belongs to it;
* `Arguments` — all that the arguments say;
* `readFront` — the arguments in front of the subcommand, `readBehind` — those behind it;
* `Arguments.ofList` — the meaning of all arguments.
-/

namespace DisplayFilter

/-! ### What arguments say -/

/-- **What is to be done.** Without a format of the input the path of the file tells it. -/
inductive Task where
  | query (file : String) (filter : Option String) (input : Option Format)
      (fields : Option (List String)) (output : OutputFormat)
  | shell (file : String) (input : Option Format) (fields : Option (List String))
  | fields (file : String) (input : Option Format) (flat : Bool)
  deriving DecidableEq, Repr

namespace Task

/-- The file with the records. -/
def file : Task → String
  | query file .. => file
  | shell file .. => file
  | fields file .. => file

/-- The format of the records. -/
def format (task : Task) : Format :=
  let chosen :=
    match task with
    | query _ _ input _ _ => input
    | shell _ input _ => input
    | fields _ input _ => input
  chosen.getD (Format.ofPath task.file)

end Task

/-- **All that the arguments say.** -/
structure Arguments where
  /-- The path of the settings. -/
  config : Option String
  /-- How many times more lines of the log were asked for. -/
  verbose : Nat
  color : ColorMode
  task : Task
  deriving DecidableEq, Repr

/-! ### Reading -/

/-- **The arguments in front of the subcommand,** up to it: what they say, the subcommand and the
arguments behind it. -/
def readFront : Draft → List String → Except EarlyEnd (Draft × String × List String)
  | _, [] => .error (.error .noSubcommand)
  | d, arg :: args =>
    match OptionToken.ofText none arg with
    | .word => .ok (d, arg, args)
    | .onlyWords => .error (.error ((args.head?.map .unexpectedArgument).getD .noSubcommand))
    | .options given ending =>
      match d.applyAll none given, ending with
      | .error e, _ => .error e
      | .ok _, .fails e => .error (.error e)
      | .ok d, .complete => readFront d args
      | .ok d, .awaits o =>
        match args with
        | [] => .error (.error (.missingValue o))
        | value :: args =>
          if OptionToken.isValue value then (d.apply none o value).bind fun d => readFront d args
          else .error (.error (.missingValue o))

/-- **The arguments behind the subcommand.** -/
def readBehind (c : Subcommand) : Draft → List String → Except EarlyEnd Draft
  | d, [] => .ok d
  | d, arg :: args =>
    match OptionToken.ofText (some c) arg with
    | .word => (d.addWord c arg).bind fun d => readBehind c d args
    | .onlyWords => args.foldlM (fun d word => d.addWord c word) d
    | .options given ending =>
      match d.applyAll (some c) given, ending with
      | .error e, _ => .error e
      | .ok _, .fails e => .error (.error e)
      | .ok d, .complete => readBehind c d args
      | .ok d, .awaits o =>
        match args with
        | [] => .error (.error (.missingValue o))
        | value :: args =>
          if OptionToken.isValue value then
            (d.apply (some c) o value).bind fun d => readBehind c d args
          else .error (.error (.missingValue o))

/-- The help that is asked for by a word: about the subcommand behind it, or about everything. -/
def helpFor : List String → EarlyEnd
  | [] => .help none
  | ["help"] => .help none
  | [word] =>
    match Subcommand.ofWord? word with
    | some c => .help (some c)
    | none => .error (.unknownSubcommand word)
  | word :: other :: _ =>
    .error (.unknownSubcommand (if (Subcommand.ofWord? word).isSome then other else word))

/-! ### Meaning -/

/-- The task of a subcommand with what was given behind it; the file has to be given. -/
def Task.ofDraft? (c : Subcommand) (d : Draft) : Option Task :=
  match c, d.words with
  | _, [] => none
  | .query, file :: more =>
    some (.query file more.head? (d.input.getD none) d.fields (d.output.getD .table))
  | .shell, file :: _ => some (.shell file (d.input.getD none) d.fields)
  | .fields, file :: _ => some (.fields file (d.input.getD none) d.flat)

/-- The path of the settings: behind the subcommand, in front of it, or set outside, where it must
not be empty unless it is given in both places. -/
def configPath (front behind : Draft) (outside : Option String) :
    Except EarlyEnd (Option String) :=
  match front.config, behind.config, outside with
  | some _, some path, _ => .ok (some path)
  | _, _, some "" => .error (.error (.missingValue .config))
  | _, some path, _ => .ok (some path)
  | some path, none, _ => .ok (some path)
  | none, none, outside => .ok outside

namespace Arguments

/-- What was given in front of a subcommand and behind it, put together. -/
def ofDrafts (c : Subcommand) (front behind : Draft) (outside : Option String) :
    Except EarlyEnd Arguments :=
  match configPath front behind outside, Task.ofDraft? c behind with
  | .error e, _ => .error e
  | .ok _, none => .error (.error .missingFile)
  | .ok path, some task => .ok
    { config := path
      verbose := if behind.verbose = 0 then front.verbose else behind.verbose
      color := (behind.color.or front.color).getD .auto
      task := task }

/-- **The meaning of all arguments,** given the path of the settings that is set outside. -/
def ofList (outside : Option String) : List String → Except EarlyEnd Arguments
  | [] => .error (.error .noArguments)
  | args => do
    let (front, word, args) ← readFront {} args
    if word = "help" then .error (helpFor args)
    else
      match Subcommand.ofWord? word with
      | none => .error (.error (.unknownSubcommand word))
      | some c => do
        let behind ← readBehind c {} args
        ofDrafts c front behind outside

end Arguments

end DisplayFilter
