import DisplayFilter.Value.Basic

/-!
# Field listings

The fields that filters can refer to in some records, sorted and each of them once.

* `addName`, `sortedNames` — names in order without repetitions;
* `leafPaths` — the dotted paths to the leaves of a value;
* `topLevelNames`, `nestedNames` — the names of one record;
* `fieldNames` — the names of all records.
-/

namespace DisplayFilter

/-! ### Sets of names -/

/-- A name added to sorted names, unless it is there. -/
def addName (name : String) : List String → List String
  | [] => [name]
  | other :: names =>
    if name = other then other :: names
    else if name < other then name :: other :: names
    else other :: addName name names

/-- Names in order, each of them once. -/
def sortedNames (names : List String) : List String :=
  names.foldl (fun sorted name => addName name sorted) []

/-! ### Names of one record -/

mutual

/-- **The paths to the leaves of a value** that a path leads to. A leaf is a value that is no map,
or a map without entries. -/
def leafPaths (path : String) : Value → List String
  | .map (entry :: entries) => entryPaths path (entry :: entries)
  | _ => [path]
termination_by structural v => v

/-- The paths to the leaves of some entries. -/
def entryPaths (path : String) : List (String × Value) → List String
  | [] => []
  | (key, v) :: entries => leafPaths (path ++ "." ++ key) v ++ entryPaths path entries
termination_by structural entries => entries

end

/-- The keys of a record. -/
def topLevelNames : Value → List String
  | .map entries => entries.map Prod.fst
  | _ => []

/-- The paths to the leaves of a record. -/
def nestedNames : Value → List String
  | .map entries => entries.flatMap fun (key, v) => leafPaths key v
  | _ => []

/-! ### Names of all records -/

/-- **The fields of some records:** their keys, or the paths to their leaves. -/
def fieldNames (nested : Bool) (records : List Value) : List String :=
  sortedNames (records.flatMap (if nested then nestedNames else topLevelNames))

end DisplayFilter
