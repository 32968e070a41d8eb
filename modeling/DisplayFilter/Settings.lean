import DisplayFilter.Filter
import DisplayFilter.Function.Builtin
import DisplayFilter.Text.Utf8
import DisplayFilter.Toml.Reading

/-!
# Settings

What can be set about filters, the shell and tables, and how it is read from a TOML document. What a
document does not mention keeps its default, and what no setting is called is not looked at.

* `Settings` — all settings, `Settings.displayFilter` — the display filter that they describe;
* `SettingsError` — why a document holds no settings;
* `Settings.ofToml?` — the settings of the tables of a document;
* `Settings.read` — the settings of the bytes of a document.
-/

namespace DisplayFilter

/-! ### Settings -/

/-- **What filters may use.** -/
structure FilterSettings where
  /-- The fields that filters may use; without any, all of them. -/
  fieldNames : List String := []
  /-- The names of the functions that filters may use. -/
  functions : List String := FunctionTable.standardNames
  deriving DecidableEq, Repr

/-- **What the shell writes** when it starts and in front of each command. -/
structure ShellSettings where
  prompt : String := "> "
  intro : String := "Type help or ? to list commands."
  deriving DecidableEq, Repr

/-- **How records are shown.** -/
structure TableSettings where
  /-- Whether the fields of nested maps are listed one by one. -/
  nestedFields : Bool := true
  deriving DecidableEq, Repr

/-- **All settings.** -/
structure Settings where
  filter : FilterSettings := {}
  shell : ShellSettings := {}
  table : TableSettings := {}
  deriving DecidableEq, Repr

/-- **Why a document holds no settings.** -/
inductive SettingsError where
  /-- The document is missing or no text. -/
  | unreadable
  /-- The text is no document, or a setting has a value of the wrong kind. -/
  | malformed
  /-- A function is not known. -/
  | unknownFunction (name : String)
  deriving DecidableEq, Repr

/-- **The message** about a document with a path. -/
def SettingsError.message (path : String) : SettingsError → String
  | unreadable => "Failed to read config file '" ++ path ++ "'"
  | malformed => "Failed to parse config file '" ++ path ++ "'"
  | unknownFunction name => "Unknown function '" ++ name ++ "' in [filter] functions"

/-! ### Use -/

namespace Settings

/-- The functions of the settings, or the first name that is none. -/
def functionTable (s : Settings) : Except SettingsError FunctionTable :=
  (FunctionTable.ofNames s.filter.functions).mapError .unknownFunction

/-- The fields that filters may use, if they are restricted. -/
def allowedFields? (s : Settings) : Option (List String) :=
  if s.filter.fieldNames.isEmpty then none else some s.filter.fieldNames

/-- **The display filter** that the settings describe. -/
def displayFilter (s : Settings) : Except SettingsError Filter :=
  s.functionTable.map fun functions =>
    (({} : Filter).withFunctions functions).withFieldNames s.filter.fieldNames

/-! ### Reading -/

/-- A string value. -/
def string? : Toml → Option String
  | .string s => some s
  | _ => none

/-- A truth value. -/
def boolean? : Toml → Option Bool
  | .boolean b => some b
  | _ => none

/-- An array of strings. -/
def strings? : Toml → Option (List String)
  | .array items => items.mapM string?
  | _ => none

/-- **The fields of a section.** A section is a table with the names of its fields, or an array that
has them in order. A date or a time has parts of its own, and so none of the fields. -/
def section? (fields : List String) : Option Toml → Option (List (String × Toml))
  | none => some []
  | some (.table _ entries) => some entries
  | some (.array items) => some (fields.zip items)
  | some (.tables elements) => some (fields.zip (elements.map (.table .header)))
  | some .moment => some []
  | some _ => none

/-- A field of a section, or what it is by default. -/
def field? {α : Type} (read? : Toml → Option α) (default : α) (name : String)
    (entries : List (String × Toml)) : Option α :=
  match Entries.find? name entries with
  | none => some default
  | some value => read? value

/-- The section about filters. -/
def filterOfToml? (value : Option Toml) : Option FilterSettings := do
  let entries ← section? ["field_names", "functions"] value
  let names ← field? strings? ({} : FilterSettings).fieldNames "field_names" entries
  let functions ← field? strings? ({} : FilterSettings).functions "functions" entries
  pure ⟨names, functions⟩

/-- The section about the shell. -/
def shellOfToml? (value : Option Toml) : Option ShellSettings := do
  let entries ← section? ["prompt", "intro"] value
  let prompt ← field? string? ({} : ShellSettings).prompt "prompt" entries
  let intro ← field? string? ({} : ShellSettings).intro "intro" entries
  pure ⟨prompt, intro⟩

/-- The section about tables. -/
def tableOfToml? (value : Option Toml) : Option TableSettings := do
  let entries ← section? ["nested_fields"] value
  let nested ← field? boolean? ({} : TableSettings).nestedFields "nested_fields" entries
  pure ⟨nested⟩

/-- **The settings of a document,** given by its tables. -/
def ofToml? (document : List (String × Toml)) : Option Settings := do
  let filter ← filterOfToml? (Entries.find? "filter" document)
  let shell ← shellOfToml? (Entries.find? "shell" document)
  let table ← tableOfToml? (Entries.find? "table" document)
  pure ⟨filter, shell, table⟩

/-- **The settings of the bytes of a document.** All functions have to be known. -/
def read (bytes : List UInt8) : Except SettingsError Settings := do
  let some text := Text.decode? bytes | .error .unreadable
  let some settings := Toml.ofText? text >>= ofToml? | .error .malformed
  let _ ← settings.functionTable
  pure settings

/-- A document without anything leaves all settings at their defaults. -/
theorem ofToml?_nil : ofToml? [] = some {} := rfl

end Settings

end DisplayFilter
