import DisplayFilter.Address.Ipv6
import DisplayFilter.Calendar.Moment
import DisplayFilter.Text.Pieces
import DisplayFilter.Value.Entries

/-!
# Values

A value is what a field of a record holds, or what a function of a filter gives.

* `Value` — null, booleans, sixty-four bit integers, binary64 numbers, texts, addresses, moments,
  lists and maps;
* `Value.kind`, `Kind.name` — which of these it is, and the word for it in messages;
* `Value.isPresent` — whether a field with this value counts as present;
* `pathSegments`, `Value.atPath?` — the walk along a dotted path through nested maps.
-/

namespace DisplayFilter

/-- **A value.** The entries of a map are sorted by key, each key once. -/
inductive Value where
  | null
  | bool (b : Bool)
  | integer (n : Int64)
  | float (x : Binary64)
  | string (s : String)
  | ipv4 (x : Ipv4)
  | ipv6 (x : Ipv6)
  | date (x : Moment)
  | list (items : List Value)
  | map (entries : List (String × Value))
  deriving Inhabited

/-- What a value can be. -/
inductive Kind where
  | null
  | bool
  | integer
  | float
  | string
  | ipv4
  | ipv6
  | date
  | list
  | map
  deriving DecidableEq, Repr

/-- The word for a kind in messages. -/
def Kind.name : Kind → String
  | .null => "null"
  | .bool => "bool"
  | .integer => "integer"
  | .float => "float"
  | .string => "string"
  | .ipv4 => "ipv4"
  | .ipv6 => "ipv6"
  | .date => "date"
  | .list => "list"
  | .map => "map"

namespace Value

/-- The kind of a value. -/
def kind : Value → Kind
  | .null => .null
  | .bool _ => .bool
  | .integer _ => .integer
  | .float _ => .float
  | .string _ => .string
  | .ipv4 _ => .ipv4
  | .ipv6 _ => .ipv6
  | .date _ => .date
  | .list _ => .list
  | .map _ => .map

/-- Whether a value is null. -/
def isNull : Value → Bool
  | .null => true
  | _ => false

/-- **Presence.** Null, the empty text, the empty list and the empty map are absent; every other
value is present, zero and false included. -/
def isPresent : Value → Bool
  | .null => false
  | .string s => !s.isEmpty
  | .list items => !items.isEmpty
  | .map entries => !entries.isEmpty
  | _ => true

/-- The entry of a map with a given key. -/
def member? (key : String) : Value → Option Value
  | .map entries => Entries.find? key entries
  | _ => none

/-- The value that a list of keys leads to. -/
def walk? : List String → Value → Option Value
  | [], v => some v
  | key :: path, v => (v.member? key).bind (walk? path)

end Value

/-- The keys that a dotted path names, an empty one where dots touch. -/
def pathSegments (path : String) : List String :=
  (Text.pieces '.' path.toList).map String.ofList

/-- **Paths.** The value at a dotted path through nested maps. -/
def Value.atPath? (path : String) (v : Value) : Option Value :=
  v.walk? (pathSegments path)

end DisplayFilter
