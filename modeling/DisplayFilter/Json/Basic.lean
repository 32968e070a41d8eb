import DisplayFilter.Number.Binary64
import DisplayFilter.Value.Entries

/-!
# JSON documents

The data that a JSON document holds. Objects keep their members sorted by name, each name once.

* `Json` — null, booleans, integers, numbers with a fraction, strings, arrays and objects;
* `Json.member?` — the member of an object with a given name.
-/

namespace DisplayFilter

/-- **A JSON document.** Readers make integers between `-2 ^ 63` and `2 ^ 64`, and only finite
numbers. -/
inductive Json where
  | null
  | bool (b : Bool)
  | integer (n : Int)
  | float (x : Binary64)
  | string (s : String)
  | array (items : List Json)
  | object (members : List (String × Json))
  deriving BEq, Repr, Inhabited

namespace Json

/-- The member of an object with a given name. -/
def member? (name : String) : Json → Option Json
  | .object members => Entries.find? name members
  | _ => none

/-- The number of a finite value; what is no finite number has no JSON form but null. -/
def ofBinary64 (x : Binary64) : Json :=
  if x.isFinite then .float x else .null

end Json

end DisplayFilter
