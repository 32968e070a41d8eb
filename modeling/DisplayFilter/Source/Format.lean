import DisplayFilter.Text.Pieces

/-!
# Formats of record files

* `Format` — the three formats;
* `fileName?`, `extension?` — the last part of a path and its ending;
* `Format.ofPath` — the format that a path tells by its ending.
-/

namespace DisplayFilter

/-- **The format of a file with records.** -/
inductive Format where
  /-- One document, relaxed: an object or an array of objects. -/
  | json
  /-- One strict document on each line. -/
  | jsonl
  /-- A table with a header. -/
  | csv
  deriving DecidableEq, Repr

/-- The word for a format. -/
def Format.name : Format → String
  | json => "json"
  | jsonl => "jsonl"
  | csv => "csv"

/-- The last part of a path; a path that ends with the parent directory has none. -/
def fileName? (path : List Char) : Option (List Char) :=
  match ((Text.pieces '/' path).filter fun part => part != [] && part != ['.']).getLast? with
  | some ['.', '.'] => none
  | last => last

/-- The text behind the last point of a name, if another character stands in front of it. -/
def extension? (name : List Char) : Option (List Char) :=
  match Text.splitOnce (· == '.') name.reverse with
  | some (_, []) => none
  | some (ending, _) => some ending.reverse
  | none => none

/-- **The format that a path tells** by its ending in any case of letters; any other ending means a
JSON document. -/
def Format.ofPath (path : String) : Format :=
  match (fileName? path.toList).bind extension? with
  | none => .json
  | some ending =>
    if Text.equalCaseless ending "csv".toList then .csv
    else if Text.equalCaseless ending "jsonl".toList
        || Text.equalCaseless ending "ndjson".toList then
      .jsonl
    else .json

end DisplayFilter
