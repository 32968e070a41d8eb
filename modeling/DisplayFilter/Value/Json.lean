import DisplayFilter.Json.Text
import DisplayFilter.Value.Text

/-!
# Values and JSON documents

* `Value.toJson` — the document of a value: addresses and moments become strings;
* `Json.toValue` — the value of a document: numbers beyond sixty-four bits become binary64 numbers;
* `Value.jsonForm` — a value as it comes back from its document.
-/

namespace DisplayFilter

mutual

/-- **The document of a value.** -/
def Value.toJson : Value → Json
  | .null => .null
  | .bool b => .bool b
  | .integer n => .integer n.toInt
  | .float x => Json.ofBinary64 x
  | .string s => .string s
  | .ipv4 x => .string x.text
  | .ipv6 x => .string x.text
  | .date x => .string x.text
  | .list items => .array (Value.itemsToJson items)
  | .map entries => .object (Value.entriesToJson entries)
termination_by structural v => v

/-- The documents of some items. -/
def Value.itemsToJson : List Value → List Json
  | [] => []
  | v :: items => v.toJson :: Value.itemsToJson items
termination_by structural items => items

/-- The documents of some entries. -/
def Value.entriesToJson : List (String × Value) → List (String × Json)
  | [] => []
  | (key, v) :: entries => (key, v.toJson) :: Value.entriesToJson entries
termination_by structural entries => entries

end

/-- The value of an integer of a document. -/
def Value.ofInt (n : Int) : Value :=
  if n = (Int64.ofInt n).toInt then .integer (Int64.ofInt n) else .float (Binary64.ofInt n)

mutual

/-- **The value of a document.** -/
def Json.toValue : Json → Value
  | .null => .null
  | .bool b => .bool b
  | .integer n => .ofInt n
  | .float x => .float x
  | .string s => .string s
  | .array items => .list (Json.itemsToValues items)
  | .object members => .map (Json.membersToEntries members)
termination_by structural j => j

/-- The values of some items. -/
def Json.itemsToValues : List Json → List Value
  | [] => []
  | j :: items => j.toValue :: Json.itemsToValues items
termination_by structural items => items

/-- The values of some members. -/
def Json.membersToEntries : List (String × Json) → List (String × Value)
  | [] => []
  | (name, j) :: members => (name, j.toValue) :: Json.membersToEntries members
termination_by structural members => members

end

/-- A value as it comes back from its document. -/
def Value.jsonForm (v : Value) : Value :=
  v.toJson.toValue

/-- The JSON text of a value on one line. -/
def Value.jsonText (v : Value) : String :=
  v.toJson.compact

@[simp] theorem Value.ofInt_toInt (n : Int64) : Value.ofInt n.toInt = .integer n := by
  simp [Value.ofInt, Int64.ofInt_toInt]

end DisplayFilter
