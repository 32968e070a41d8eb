import DisplayFilter.Value.Json

/-!
# Records

A record is what a filter is applied to: something in which a dotted path leads to a value. A path
that leads nowhere gives null.

* `Record` — a value, a JSON document or the entries of a map;
* `Record.resolve` — the value at a path;
* `recordsOfRows` — records from a header and rows of cells.
-/

namespace DisplayFilter

/-- **A record.** -/
inductive Record where
  | value (v : Value)
  | json (j : Json)
  | entries (es : List (String × Value))
  deriving Inhabited

/-- The document that a list of member names leads to. -/
def Json.walk? : List String → Json → Option Json
  | [], j => some j
  | name :: path, j => (j.member? name).bind (walk? path)

/-- The value at a path through a document, null if there is none. -/
def Json.resolve (path : String) (j : Json) : Value :=
  ((j.walk? (pathSegments path)).map Json.toValue).getD .null

/-- The value at a path through a value, null if there is none. -/
def Value.resolve (path : String) (v : Value) : Value :=
  (v.atPath? path).getD .null

/-- The value at a path through the entries of a map: the entry in front of the first dot, and in
it the value at the rest of the path. -/
def Entries.resolve (path : String) (entries : List (String × Value)) : Value :=
  match Text.splitOnce (· == '.') path.toList with
  | none => (Entries.find? path entries).getD .null
  | some (head, rest) =>
    match Entries.find? (String.ofList head) entries with
    | some v => v.resolve (String.ofList rest)
    | none => .null

/-- **Resolving.** The value at a path through a record, null if there is none. -/
def Record.resolve (path : String) : Record → Value
  | .value v => v.resolve path
  | .json j => j.resolve path
  | .entries es => Entries.resolve path es

/-- **Rows.** Each row becomes a map from the field names to its cells. Cells without a name are
dropped, fields without a cell are absent, and of two cells with one name the later stays. -/
def recordsOfRows (names : List String) (rows : List (List Value)) : List Value :=
  rows.map fun row => .map (Entries.ofList (names.zip row))

end DisplayFilter
