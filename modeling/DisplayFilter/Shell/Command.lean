import DisplayFilter.Text.Blank
import DisplayFilter.Text.Pieces

/-!
# Commands of the shell

* `ShellCommand` — what a line asks for, `ShellCommand.ofLine` — the command of a line;
* `ShellCommand.helpText` — the list of commands with what they do.
-/

namespace DisplayFilter

/-- **What a line of the shell asks for.** -/
inductive ShellCommand where
  /-- Show the records that satisfy a filter. -/
  | filter (text : String)
  | fields
  | debug
  | help
  | exit
  /-- Nothing stands on the line. -/
  | empty
  /-- The line is no command. -/
  | unknown (line : String)
  deriving DecidableEq, Repr

namespace ShellCommand

/-- The command of a word that starts a line, given the line and what stands behind the word. -/
def ofWord (word line rest : List Char) : ShellCommand :=
  match String.ofList word with
  | "filter" => filter (String.ofList rest)
  | "fields" => fields
  | "debug" => debug
  | "help" => help
  | "exit" => exit
  | "quit" => exit
  | "EOF" => exit
  | _ => unknown (String.ofList line)

/-- **The command of a line,** by its first word. Blanks around the line do not count. -/
def ofLine (line : String) : ShellCommand :=
  let line := Text.trim line.toList
  if line.isEmpty then empty
  else if line = ['?'] then help
  else
    match Text.splitOnce Text.isBlank line with
    | some (word, rest) => ofWord word line (Text.trim rest)
    | none => ofWord line line []

/-- The commands with what they do. -/
def descriptions : List (String × String) :=
  [("filter <expr>", "Apply a display filter and print the matching records"),
    ("fields", "List the fields a display filter can be applied on"),
    ("debug", "Toggle debug logging on/off"),
    ("help, ?", "Show this help"),
    ("exit", "Leave the shell (Ctrl+D works too)")]

/-- A line of the list of commands: descriptions stand below each other. -/
def descriptionLine (name description : String) : String :=
  "  " ++ name ++ String.ofList (List.replicate (16 - name.length) ' ') ++ description ++ "\n"

/-- **The list of commands.** -/
def helpText : String :=
  "Commands:\n" ++ String.join (descriptions.map fun (name, text) => descriptionLine name text)

end ShellCommand

end DisplayFilter
