import DisplayFilter.CommandLine.Options

/-!
# Help about the command line

* `helpText` — what is shown about a subcommand, or about everything;
* `versionText` — the name and the version of the program.
-/

namespace DisplayFilter

/-- The name and the version of the program. -/
def versionText : String := "dfql 0.1.0\n"

/-- Help about everything. -/
def generalHelp : List String :=
  ["Wireshark-style display filters for in-memory records",
    "",
    "Usage: dfql [OPTIONS] <COMMAND>",
    "",
    "Commands:",
    "  query   Print the records of a file matching a display filter",
    "  shell   Start an interactive filter shell over a file",
    "  fields  List the field names of a file",
    "  help    Print this message or the help of the given subcommand(s)",
    "",
    "Options:",
    "      --config <CONFIG>  TOML configuration file [env: DFQL_CONFIG=]",
    "  -v, --verbose...       Increase log verbosity (-v info, -vv debug)",
    "      --color <COLOR>    When to use colored output [default: auto] [possible values: auto,"
      ++ " always, never]",
    "  -h, --help             Print help",
    "  -V, --version          Print version"]

/-- The options that all subcommands share. -/
def sharedHelp : List String :=
  ["      --config <CONFIG>  TOML configuration file [env: DFQL_CONFIG=]",
    "  -v, --verbose...       Increase log verbosity (-v info, -vv debug)",
    "      --color <COLOR>    When to use colored output [default: auto] [possible values: auto,"
      ++ " always, never]",
    "  -h, --help             Print help"]

/-- The option for the format of records. -/
def inputHelp : String :=
  "  -i, --input <INPUT>    Input format [default: auto] [possible values: auto, json, jsonl, csv]"

/-- The option for the fields that filters may use. -/
def fieldsHelp : String :=
  "      --fields <FIELDS>  Restrict filters to these comma-separated fields"

/-- The argument for the file. -/
def fileHelp : String := "  <FILE>    File with the records"

/-- Help about a subcommand. -/
def subcommandHelp : Subcommand → List String
  | .query =>
    ["Print the records of a file matching a display filter",
      "",
      "Usage: dfql query [OPTIONS] <FILE> [FILTER]",
      "",
      "Arguments:",
      fileHelp,
      "  [FILTER]  Display filter, e.g. \"age >= 32 and gender == male\"; omit for all records",
      "",
      "Options:",
      inputHelp,
      fieldsHelp,
      "  -o, --output <OUTPUT>  Output format [default: table] [possible values: table, json]"]
      ++ sharedHelp
  | .shell =>
    ["Start an interactive filter shell over a file",
      "",
      "Usage: dfql shell [OPTIONS] <FILE>",
      "",
      "Arguments:",
      fileHelp,
      "",
      "Options:",
      inputHelp,
      fieldsHelp] ++ sharedHelp
  | .fields =>
    ["List the field names of a file",
      "",
      "Usage: dfql fields [OPTIONS] <FILE>",
      "",
      "Arguments:",
      fileHelp,
      "",
      "Options:",
      inputHelp,
      "      --flat             Only list top-level keys"] ++ sharedHelp

/-- **Help** about a subcommand, or about everything. -/
def helpText (about : Option Subcommand) : String :=
  String.join ((about.elim generalHelp subcommandHelp).map (· ++ "\n"))

end DisplayFilter
