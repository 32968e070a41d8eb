import DisplayFilter.Source.Format
import DisplayFilter.Text.Pieces

/-!
# Options of the command line

Options stand in front of the word for what is to be done or behind it. An option with a value has
it behind an equals sign or as the next argument; options of one letter can be written together.

* `Subcommand` — what can be done, `CommandOption` — the options;
* `UsageError` — what is wrong with some arguments;
* `Draft` — what was given so far, `Draft.apply` — one more option;
* `OptionToken` — what a single argument is, `OptionToken.ofText`.
-/

namespace DisplayFilter

/-! ### Words -/

/-- **What can be done.** -/
inductive Subcommand where
  /-- Show the records that satisfy a filter. -/
  | query
  /-- Start a shell. -/
  | shell
  /-- List the fields of the records. -/
  | fields
  deriving DecidableEq, Repr

namespace Subcommand

/-- All of them. -/
def all : List Subcommand := [query, shell, fields]

/-- The word for one. -/
def word : Subcommand → String
  | query => "query"
  | shell => "shell"
  | fields => "fields"

/-- The one that a word stands for. -/
def ofWord? (s : String) : Option Subcommand :=
  all.find? fun c => c.word == s

/-- The greatest number of words behind it. -/
def greatestWordCount : Subcommand → Nat
  | query => 2
  | shell => 1
  | fields => 1

end Subcommand

/-- **The options.** -/
inductive CommandOption where
  | config
  | verbose
  | color
  | help
  | version
  | input
  | fields
  | output
  | flat
  deriving DecidableEq, Repr

namespace CommandOption

/-- The word of an option, behind two dashes. -/
def word : CommandOption → String
  | config => "config"
  | verbose => "verbose"
  | color => "color"
  | help => "help"
  | version => "version"
  | input => "input"
  | fields => "fields"
  | output => "output"
  | flat => "flat"

/-- The letter of an option, behind one dash. -/
def letter? : CommandOption → Option Char
  | verbose => some 'v'
  | help => some 'h'
  | version => some 'V'
  | input => some 'i'
  | output => some 'o'
  | _ => none

/-- Whether an option has a value. -/
def takesValue : CommandOption → Bool
  | config => true
  | color => true
  | input => true
  | fields => true
  | output => true
  | _ => false

/-- The options that stand anywhere. -/
def everywhere : List CommandOption := [config, verbose, color, help]

/-- **The options that are admitted** in front of the subcommand, or behind it. -/
def admitted : Option Subcommand → List CommandOption
  | none => everywhere ++ [version]
  | some .query => everywhere ++ [input, fields, output]
  | some .shell => everywhere ++ [input, fields]
  | some .fields => everywhere ++ [input, flat]

/-- The admitted option of a word. -/
def ofWord? (c : Option Subcommand) (word : List Char) : Option CommandOption :=
  (admitted c).find? fun o => o.word.toList == word

/-- The admitted option of a letter. -/
def ofLetter? (c : Option Subcommand) (letter : Char) : Option CommandOption :=
  (admitted c).find? fun o => o.letter? == some letter

/-- An option as it is written in messages. -/
def text (o : CommandOption) : String :=
  if o.takesValue then "--" ++ o.word ++ " <" ++ o.word.toUpper ++ ">" else "--" ++ o.word

end CommandOption

/-! ### Values -/

/-- **When output is colored.** -/
inductive ColorMode where
  /-- Where it is shown on a terminal. -/
  | auto
  | always
  | never
  deriving DecidableEq, Repr

/-- The mode of a word. -/
def ColorMode.ofWord? (s : String) : Option ColorMode :=
  match s with
  | "auto" => some auto
  | "always" => some always
  | "never" => some never
  | _ => none

/-- **The format of what is shown.** -/
inductive OutputFormat where
  | table
  | json
  deriving DecidableEq, Repr

/-- The format of a word. -/
def OutputFormat.ofWord? (s : String) : Option OutputFormat :=
  match s with
  | "table" => some table
  | "json" => some json
  | _ => none

/-- The format of records that a word chooses; one word leaves the choice to the path. -/
def inputFormat? (s : String) : Option (Option Format) :=
  if s = "auto" then some none
  else (([.json, .jsonl, .csv] : List Format).find? fun f => f.name == s).map some

/-! ### Errors -/

/-- **What is wrong with some arguments.** -/
inductive UsageError where
  | noArguments
  | noSubcommand
  | unknownSubcommand (word : String)
  | unexpectedArgument (text : String)
  | unexpectedValue (o : CommandOption) (value : String)
  | missingValue (o : CommandOption)
  | invalidValue (o : CommandOption) (value : String)
  | repeated (o : CommandOption)
  | missingFile
  deriving DecidableEq, Repr

/-- **The message** of an error. -/
def UsageError.message : UsageError → String
  | noArguments => "'dfql' requires a subcommand but one was not provided"
  | noSubcommand => "'dfql' requires a subcommand but one was not provided"
  | unknownSubcommand word => "unrecognized subcommand '" ++ word ++ "'"
  | unexpectedArgument text => "unexpected argument '" ++ text ++ "' found"
  | unexpectedValue o value =>
    "unexpected value '" ++ value ++ "' for '" ++ o.text ++ "' found; no more were expected"
  | missingValue o => "a value is required for '" ++ o.text ++ "' but none was supplied"
  | invalidValue o value => "invalid value '" ++ value ++ "' for '" ++ o.text ++ "'"
  | repeated o => "the argument '" ++ o.text ++ "' cannot be used multiple times"
  | missingFile => "the following required arguments were not provided:\n  <FILE>"

/-- **Why reading arguments ends early.** -/
inductive EarlyEnd where
  | error (e : UsageError)
  /-- Help about a subcommand, or about everything. -/
  | help (about : Option Subcommand)
  | version
  deriving DecidableEq, Repr

/-! ### Drafts -/

/-- **What was given so far,** in front of the subcommand or behind it. -/
structure Draft where
  config : Option String := none
  verbose : Nat := 0
  color : Option ColorMode := none
  input : Option (Option Format) := none
  fields : Option (List String) := none
  output : Option OutputFormat := none
  flat : Bool := false
  /-- The arguments that are no options. -/
  words : List String := []
  deriving DecidableEq, Repr

namespace Draft

/-- A value for an option that has none yet. -/
def once {α : Type} (o : CommandOption) (value : String) (old new : Option α) :
    Except EarlyEnd (Option α) :=
  match new, old with
  | none, _ => .error (.error (.invalidValue o value))
  | some _, some _ => .error (.error (.repeated o))
  | some x, none => .ok (some x)

/-- **One more option** with its value, which is empty for an option without one. Names of fields
are separated by commas, and more of them may follow later. -/
def apply (c : Option Subcommand) (o : CommandOption) (value : String) (d : Draft) :
    Except EarlyEnd Draft :=
  match o with
  | .help => .error (.help c)
  | .version => .error .version
  | .verbose => .ok { d with verbose := d.verbose + 1 }
  | .flat => if d.flat then .error (.error (.repeated o)) else .ok { d with flat := true }
  | .config =>
    if value.isEmpty then .error (.error (.missingValue o))
    else (once o value d.config (some value)).map fun x => { d with config := x }
  | .color => (once o value d.color (ColorMode.ofWord? value)).map fun x => { d with color := x }
  | .input => (once o value d.input (inputFormat? value)).map fun x => { d with input := x }
  | .output =>
    (once o value d.output (OutputFormat.ofWord? value)).map fun x => { d with output := x }
  | .fields =>
    let names := (Text.pieces ',' value.toList).map String.ofList
    .ok { d with fields := some (d.fields.getD [] ++ names) }

/-- Options one after the other. -/
def applyAll (c : Option Subcommand) : List (CommandOption × String) → Draft → Except EarlyEnd Draft
  | [], d => .ok d
  | (o, value) :: more, d => (d.apply c o value).bind (applyAll c more)

/-- **One more word** behind a subcommand: first the file, which has to have a name. -/
def addWord (c : Subcommand) (word : String) (d : Draft) : Except EarlyEnd Draft :=
  if c.greatestWordCount ≤ d.words.length then .error (.error (.unexpectedArgument word))
  else if d.words.isEmpty && word.isEmpty then .error (.error .missingFile)
  else .ok { d with words := d.words ++ [word] }

end Draft

/-! ### Single arguments -/

/-- What follows the options of an argument. -/
inductive OptionEnd where
  | complete
  /-- The value of an option has to be the next argument. -/
  | awaits (o : CommandOption)
  | fails (e : UsageError)
  deriving DecidableEq, Repr

/-- **What a single argument is.** -/
inductive OptionToken where
  | word
  /-- All arguments behind it are words. -/
  | onlyWords
  | options (given : List (CommandOption × String)) (ending : OptionEnd)
  deriving DecidableEq, Repr

namespace OptionToken

/-- Options of one letter that are written together. The value of an option is what is left. -/
def ofLetters (c : Option Subcommand) (text : String) :
    List Char → List (CommandOption × String) × OptionEnd
  | [] => ([], .complete)
  | letter :: letters =>
    match CommandOption.ofLetter? c letter with
    | none => ([], .fails (.unexpectedArgument text))
    | some o =>
      if o.takesValue then
        match letters with
        | [] => ([], .awaits o)
        | '=' :: value => ([(o, String.ofList value)], .complete)
        | value => ([(o, String.ofList value)], .complete)
      else
        let (given, ending) := ofLetters c text letters
        ((o, "") :: given, ending)

/-- An option with its word, and with what stands behind an equals sign. -/
def ofWord (c : Option Subcommand) (text : String) (word : List Char)
    (value : Option (List Char)) : OptionToken :=
  match CommandOption.ofWord? c word, value with
  | none, _ => .options [] (.fails (.unexpectedArgument text))
  | some o, some value =>
    if o.takesValue then .options [(o, String.ofList value)] .complete
    else .options [] (.fails (.unexpectedValue o (String.ofList value)))
  | some o, none =>
    if o.takesValue then .options [] (.awaits o) else .options [(o, "")] .complete

/-- **What a single argument is.** A dash alone is a word. -/
def ofText (c : Option Subcommand) (text : String) : OptionToken :=
  match text.toList with
  | ['-', '-'] => .onlyWords
  | '-' :: '-' :: s =>
    match Text.splitOnce (· == '=') s with
    | some (key, value) => ofWord c text key (some value)
    | none => ofWord c text s none
  | '-' :: letter :: letters =>
    let (given, ending) := ofLetters c text (letter :: letters)
    .options given ending
  | _ => .word

/-- Whether an argument can be the value of the option in front of it: it is a word. -/
def isValue (text : String) : Bool :=
  match text.toList with
  | '-' :: _ :: _ => false
  | _ => true

end OptionToken

end DisplayFilter
