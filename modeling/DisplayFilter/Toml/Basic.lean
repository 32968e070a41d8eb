import DisplayFilter.Value.Entries

/-!
# TOML documents

A TOML document is a tree of tables. Tables come into being in several ways, and the way decides
what may be added to them later.

* `TableForm` — how a table came into being, `Toml` — documents;
* `Toml.updateAt?` — a change of the table at a path;
* `Toml.assign?` — a value for a dotted key;
* `TomlDocument` — a document under construction, `TomlDocument.openTable?`, `openElement?` — a new
  header, `TomlDocument.close?` — the end of the current table.
-/

namespace DisplayFilter

/-- **How a table came into being.** -/
inductive TableForm where
  /-- By a header of its own. -/
  | header
  /-- As the parent of a table with a header. -/
  | parent
  /-- By a dotted key. -/
  | dotted
  /-- In braces; nothing can be added to it. -/
  | braces
  deriving DecidableEq, Repr

/-- **A TOML value.** Numbers, dates and times are of no use to any setting and stay without
content. -/
inductive Toml where
  | string (s : String)
  | boolean (b : Bool)
  | number
  /-- A date, a time of the day, or both. -/
  | moment
  | array (items : List Toml)
  | table (form : TableForm) (entries : List (String × Toml))
  /-- An array of tables, each of them with a header. -/
  | tables (elements : List (List (String × Toml)))

namespace Toml

/-- The last of some tables changed. -/
def updateLast? (f : List (String × Toml) → Option (List (String × Toml))) :
    List (List (String × Toml)) → Option (List (List (String × Toml)))
  | [] => none
  | [entries] => (f entries).map ([·])
  | entries :: more => (updateLast? f more).map (entries :: ·)

/-- **The table at a path changed,** its parents made where they are missing. A dotted path does
not lead through tables with a header, and no path leads through values or tables in braces. Of an
array of tables the last one counts. -/
def updateAt? (dotted : Bool)
    (f : TableForm → List (String × Toml) → Option (List (String × Toml))) :
    List String → TableForm → List (String × Toml) → Option (List (String × Toml))
  | [], form, entries => f form entries
  | key :: path, _, entries =>
    match Entries.find? key entries with
    | none => do
      let form := if dotted then .dotted else .parent
      let inner ← updateAt? dotted f path form []
      pure (Entries.insert key (.table form inner) entries)
    | some (.table form inner) =>
      if form = .braces ∨ (dotted ∧ form = .header) then none
      else do
        let inner ← updateAt? dotted f path form inner
        pure (Entries.insert key (.table form inner) entries)
    | some (.tables elements) => do
      let elements ← updateLast? (updateAt? dotted f path .header) elements
      pure (Entries.insert key (.tables elements) entries)
    | some _ => none

/-- A value for a key of a table that has no such key yet. Keys with dots make tables by dotted
keys only, keys without dots none of these. -/
def assignHere? (dotted : Bool) (key : String) (value : Toml) (form : TableForm)
    (entries : List (String × Toml)) : Option (List (String × Toml)) :=
  if dotted = decide (form = .dotted) ∧ (Entries.find? key entries).isNone then
    some (Entries.insert key value entries)
  else none

/-- **A value for a dotted key,** given by the keys in front of the last point and the last key. -/
def assign? (path : List String) (key : String) (value : Toml) (entries : List (String × Toml)) :
    Option (List (String × Toml)) :=
  updateAt? true (assignHere? (!path.isEmpty) key value) path .header entries

end Toml

/-- **A document under construction:** what is finished, and the current table with its place. -/
structure TomlDocument where
  root : List (String × Toml) := []
  current : List (String × Toml) := []
  /-- The keys of the current header, none at the start of the document. -/
  path : List String := []
  /-- Whether the current table is an element of an array of tables. -/
  isElement : Bool := false

namespace TomlDocument

/-- A table put under a key. -/
def putTable (key : String) (table : List (String × Toml)) (_ : TableForm)
    (entries : List (String × Toml)) : Option (List (String × Toml)) :=
  some (Entries.insert key (.table .header table) entries)

/-- A table put behind the other elements of an array of tables. -/
def putElement (key : String) (table : List (String × Toml)) (_ : TableForm)
    (entries : List (String × Toml)) : Option (List (String × Toml)) :=
  match Entries.find? key entries with
  | none => some (Entries.insert key (.tables [table]) entries)
  | some (.tables elements) => some (Entries.insert key (.tables (elements ++ [table])) entries)
  | some _ => none

/-- **The end of the current table:** it takes its place in the document. -/
def close? (d : TomlDocument) : Option (List (String × Toml)) :=
  match d.path.getLast? with
  | none => some d.current
  | some key =>
    let put := if d.isElement then putElement key d.current else putTable key d.current
    Toml.updateAt? false put d.path.dropLast .header d.root

/-- What a table of some parent starts with: nothing, or what it has as the parent of others. -/
def startOf? (key : String) (entries : List (String × Toml)) : Option (List (String × Toml)) :=
  match Entries.find? key entries with
  | none => some []
  | some (.table .parent inner) => some inner
  | some _ => none

/-- The entries of the table at a path that leads through tables and last elements. -/
def entriesAt? : List String → List (String × Toml) → Option (List (String × Toml))
  | [], entries => some entries
  | key :: path, entries =>
    match Entries.find? key entries with
    | none => some []
    | some (.table form inner) => if form = .braces then none else entriesAt? path inner
    | some (.tables elements) => elements.getLast?.bind (entriesAt? path)
    | some _ => none

/-- **A header:** the current table ends, and the one of the header, which had none before,
starts. -/
def openTable? (d : TomlDocument) (path : List String) : Option TomlDocument := do
  let root ← d.close?
  let key ← path.getLast?
  let current ← startOf? key (← entriesAt? path.dropLast root)
  pure ⟨root, current, path, false⟩

/-- **A header of an element** of an array of tables. -/
def openElement? (d : TomlDocument) (path : List String) : Option TomlDocument := do
  let root ← d.close?
  let key ← path.getLast?
  match Entries.find? key (← entriesAt? path.dropLast root) with
  | none => pure ⟨root, [], path, true⟩
  | some (.tables _) => pure ⟨root, [], path, true⟩
  | some _ => none

/-- A value for a dotted key of the current table. -/
def assign? (d : TomlDocument) (path : List String) (key : String) (value : Toml) :
    Option TomlDocument :=
  (Toml.assign? path key value d.current).map fun current => { d with current := current }

end TomlDocument

end DisplayFilter
