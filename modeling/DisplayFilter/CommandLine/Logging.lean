import DisplayFilter.Filter
import DisplayFilter.Pattern.Reading
import DisplayFilter.Text.Blank

/-!
# The log on the command line

How much of the log is written is asked for by options, or by a text that is set outside: levels
and names with levels between commas, and a pattern behind a slash.

* `LogRules` — what is written, `LogRules.ofVerbosity`, `LogRules.ofText` — where it comes from;
* `LogRules.text` — the lines as they are written.
-/

namespace DisplayFilter

/-- The name by which the program calls itself. -/
def programName : String := "dfql"

/-- The level of a word, in any case of letters. -/
def Level.ofWord? (s : List Char) : Option Level :=
  [Level.off, .error, .warn, .info, .debug, .trace].find? fun level =>
    Text.equalCaseless level.name.toList s

/-- **What is written of the log.** -/
structure LogRules where
  /-- How much is heard at the start. -/
  start : Level
  /-- How much is written at most. -/
  limit : Level
  /-- Only lines in which the pattern occurs are written. -/
  pattern : Option Pattern := none
  /-- What is to be said about parts of the rules that mean nothing. -/
  warnings : List String := []
  /-- Whether lines are colored. -/
  colored : Bool := false

namespace LogRules

/-- **Asked for by options:** warnings at least, then information, then everything. -/
def ofVerbosity (verbose : Nat) : LogRules where
  start :=
    match verbose with
    | 0 => .warn
    | 1 => .info
    | _ => .debug
  limit := .debug

/-! ### Rules from a text -/

/-- **A part of the rules:** a level for all names, or one for the names that start with a word. -/
structure Directive where
  name : Option (List Char)
  level : Level

/-- The directive between two commas, or what is wrong with it. A name without a level asks for
everything. -/
def directive (s : List Char) : Except String Directive :=
  match Text.pieces '=' s with
  | [word] =>
    match Level.ofWord? word with
    | some level => .ok ⟨none, level⟩
    | none => .ok ⟨some word, .trace⟩
  | [name, word] =>
    let word := Text.trim word
    if word.isEmpty then .ok ⟨some name, .trace⟩
    else
      match Level.ofWord? word with
      | some level => .ok ⟨some name, level⟩
      | none => .error ("invalid logging spec '" ++ String.ofList word ++ "'")
  | _ => .error ("invalid logging spec '" ++ String.ofList s ++ "'")

/-- The directives of a text. -/
def directives (s : List Char) : List (Except String Directive) :=
  (((Text.pieces ',' s).map Text.trim).filter fun part => !part.isEmpty).map directive

/-- The names of the program's parts start with its own name. -/
def Directive.concerns (d : Directive) : Bool :=
  match d.name with
  | none => true
  | some name => (Text.dropText? name programName.toList).isSome

/-- **The directives that count:** the last one for each name. Without one for all names, all
names are in debug mode. -/
def settled (ds : List Directive) : List Directive :=
  ds.foldl (fun kept d => (kept.filter fun other => other.name != d.name) ++ [d]) [⟨none, .debug⟩]

/-- The greatest level of some directives. -/
def greatest (ds : List Directive) : Level :=
  ds.foldl (fun best d => if best.rank ≤ d.level.rank then d.level else best) .off

/-- The length of the name of a directive. -/
def Directive.nameLength (d : Directive) : Nat :=
  (d.name.map List.length).getD 0

/-- The level for the program: that of the directive with the longest name that concerns it. -/
def limitOf (ds : List Directive) : Level :=
  let longest := (ds.filter Directive.concerns).foldl
    (fun (best : Option Directive) d =>
      if best.any fun other => d.nameLength < other.nameLength then best else some d) none
  (longest.map Directive.level).getD .off

/-- The pattern behind a slash, if there is one that can be read, or what is wrong with it. -/
def patternOf : Option (List Char) → Option Pattern × List String
  | none => (none, [])
  | some s =>
    match Pattern.ofText? (String.ofList s) with
    | some p => (some p, [])
    | none => (none, ["invalid regex filter"])

/-- **Set outside:** directives between commas, and a pattern behind a slash. -/
def ofText (s : String) : LogRules :=
  match Text.pieces '/' s.toList with
  | front :: more =>
    if 1 < more.length then
      { start := .debug
        limit := .debug
        warnings := ["invalid logging spec '" ++ s ++ "' (too many '/'s)"] }
    else
      let parts := directives front
      let ds := settled (parts.filterMap fun part => part.toOption)
      let faults := parts.filterMap fun part =>
        match part with
        | .error e => some e
        | .ok _ => none
      let (pattern, patternFaults) := patternOf more.head?
      { start := greatest ds
        limit := limitOf ds
        pattern := pattern
        warnings := faults ++ patternFaults }
  | [] => ofVerbosity 2

/-! ### Lines -/

/-- Whether a line that is heard is written. -/
def admits (r : LogRules) (line : LogLine) : Bool :=
  line.level.within r.limit && r.pattern.all fun p => p.occursIn line.text.toList

/-- The word for a level in five columns. -/
def column (level : Level) : String :=
  level.name ++ String.ofList (List.replicate (5 - level.name.length) ' ')

/-- The text of a line; more lines of it are indented. -/
def indented (text : String) : String :=
  String.ofList (Text.join "\n    ".toList (Text.pieces '\n' text.toList))

/-- The sequence that colors what follows. -/
def colorOf : Level → String
  | .error => "\x1b[1m\x1b[31m"
  | .warn => "\x1b[33m"
  | .info => "\x1b[32m"
  | .debug => "\x1b[34m"
  | _ => "\x1b[36m"

/-- A text between a color and the end of it. -/
def painted (colored : Bool) (color text : String) : String :=
  if colored then color ++ text ++ "\x1b[0m" else text

/-- A line as it is written: the level between brackets, then the text. -/
def lineText (colored : Bool) (line : LogLine) : String :=
  painted colored "\x1b[90m" "[" ++ painted colored (colorOf line.level) (column line.level)
    ++ painted colored "\x1b[90m" "]" ++ " " ++ indented line.text ++ "\n"

/-- **The lines as they are written.** -/
def text (r : LogRules) (lines : List LogLine) : String :=
  String.join ((lines.filter r.admits).map (lineText r.colored))

/-- What is written about the rules themselves. -/
def warningText (r : LogRules) : String :=
  String.join (r.warnings.map fun s => "warning: " ++ s ++ ", ignoring it\n")

end LogRules

end DisplayFilter
