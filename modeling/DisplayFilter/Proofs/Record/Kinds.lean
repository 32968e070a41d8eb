import DisplayFilter.Proofs.Record.Paths

/-!
# The kinds of records agree

A map can be filtered as a value, as its entries or as the JSON document that it is written to.  The
walks along a path differ: the first one takes the keys of the path one after the other, the second one
cuts the path at its first dot, and the third one goes through the document and makes a value of what it
finds at the end.

* **`member?_toJson`**, **`walk?_toJson`** — the walk through the document of a value is the document of
  the walk;
* `Value.isJsonShaped`, **`jsonForm_of_isJsonShaped`** — values that a document has as they are;
* **`resolve_entries`**, **`resolve_toJson`** — entries and documents;
* **`resolve_kinds`** — all three kinds of records.
-/

namespace DisplayFilter

/-! ### Entries -/

/-- **Through the entries of a map** a path leads to where it leads through the map. -/
theorem resolve_entries (path : String) (entries : List (String × Value)) :
    Entries.resolve path entries = (Value.map entries).resolve path := by
  unfold Entries.resolve Value.resolve Value.atPath?
  cases hsplit : Text.splitOnce (· == '.') path.toList with
  | none =>
    rw [pathSegments_plain hsplit]
    show (Entries.find? path entries).getD .null = ((Entries.find? path entries).bind some).getD .null
    rw [Option.bind_fun_some]
  | some answer =>
    obtain ⟨head, rest⟩ := answer
    have hwalk : Value.walk? (String.ofList head :: pathSegments (String.ofList rest)) (.map entries) =
        (Entries.find? (String.ofList head) entries).bind
          (Value.walk? (pathSegments (String.ofList rest))) := rfl
    rw [pathSegments_dotted hsplit, hwalk]
    cases hfind : Entries.find? (String.ofList head) entries with
    | none =>
      simp only [hfind]
      rfl
    | some v =>
      simp only [hfind]
      rfl

/-! ### Documents -/

theorem find?_entriesToJson (key : String) (entries : List (String × Value)) :
    Entries.find? key (Value.entriesToJson entries) =
      (Entries.find? key entries).map Value.toJson := by
  induction entries with
  | nil => rfl
  | cons entry entries ih =>
    obtain ⟨k, v⟩ := entry
    rw [Value.entriesToJson, Entries.find?_cons, Entries.find?_cons, ih]
    split
    · rfl
    · rfl

/-- **The member of the document** of a value is the document of the member. -/
theorem member?_toJson (key : String) (v : Value) :
    v.toJson.member? key = (v.member? key).map Value.toJson := by
  cases v with
  | map entries => exact find?_entriesToJson key entries
  | float x =>
    show (Json.ofBinary64 x).member? key = none
    unfold Json.ofBinary64
    split
    · rfl
    · rfl
  | _ => rfl

/-- **The walk through the document** of a value leads to the document of what the walk through the
value leads to. -/
theorem walk?_toJson (keys : List String) (v : Value) :
    v.toJson.walk? keys = (v.walk? keys).map Value.toJson := by
  induction keys generalizing v with
  | nil => rfl
  | cons key keys ih =>
    rw [Json.walk?, member?_toJson, Value.walk?]
    cases v.member? key with
    | none => rfl
    | some w => exact ih w

/-- **Through the document of a value** a path leads to the JSON form of where it leads through the
value. -/
theorem resolve_toJson (path : String) (v : Value) :
    v.toJson.resolve path = (v.resolve path).jsonForm := by
  rw [Json.resolve, walk?_toJson, Value.resolve, Value.atPath?]
  cases v.walk? (pathSegments path) with
  | none => rfl
  | some w => rfl

/-! ### Values that a document has as they are -/

mutual

/-- **Whether a document has a value as it is:** there are only null, truth values, integers, finite
numbers and strings in it, in lists and maps. -/
def Value.isJsonShaped : Value → Bool
  | .null => true
  | .bool _ => true
  | .integer _ => true
  | .float x => x.isFinite
  | .string _ => true
  | .ipv4 _ => false
  | .ipv6 _ => false
  | .date _ => false
  | .list items => Value.areJsonShaped items
  | .map entries => Value.entriesAreJsonShaped entries
termination_by structural v => v

/-- Whether a document has all of some items as they are. -/
def Value.areJsonShaped : List Value → Bool
  | [] => true
  | v :: items => v.isJsonShaped && Value.areJsonShaped items
termination_by structural items => items

/-- Whether a document has the values of all of some entries as they are. -/
def Value.entriesAreJsonShaped : List (String × Value) → Bool
  | [] => true
  | (_, v) :: entries => v.isJsonShaped && Value.entriesAreJsonShaped entries
termination_by structural entries => entries

end

mutual

/-- **Such a value** comes back from its document. -/
theorem jsonForm_of_isJsonShaped (v : Value) (h : v.isJsonShaped = true) : v.jsonForm = v := by
  cases v with
  | null => rfl
  | bool b => rfl
  | integer n => exact Value.ofInt_toInt n
  | float x =>
    have hfinite : x.isFinite = true := h
    show (Json.ofBinary64 x).toValue = .float x
    rw [Json.ofBinary64, if_pos hfinite]
    rfl
  | string s => rfl
  | ipv4 x => exact Bool.noConfusion h
  | ipv6 x => exact Bool.noConfusion h
  | date x => exact Bool.noConfusion h
  | list items => exact congrArg Value.list (itemsToValues_itemsToJson items h)
  | map entries => exact congrArg Value.map (membersToEntries_entriesToJson entries h)

theorem itemsToValues_itemsToJson (items : List Value) (h : Value.areJsonShaped items = true) :
    Json.itemsToValues (Value.itemsToJson items) = items := by
  cases items with
  | nil => rfl
  | cons v items =>
    obtain ⟨hv, hitems⟩ := Bool.and_eq_true_iff.1 h
    rw [Value.itemsToJson, Json.itemsToValues, itemsToValues_itemsToJson items hitems]
    exact congrArg (· :: items) (jsonForm_of_isJsonShaped v hv)

theorem membersToEntries_entriesToJson (entries : List (String × Value))
    (h : Value.entriesAreJsonShaped entries = true) :
    Json.membersToEntries (Value.entriesToJson entries) = entries := by
  cases entries with
  | nil => rfl
  | cons entry entries =>
    obtain ⟨key, v⟩ := entry
    obtain ⟨hv, hentries⟩ := Bool.and_eq_true_iff.1 h
    rw [Value.entriesToJson, Json.membersToEntries, membersToEntries_entriesToJson entries hentries]
    exact congrArg (fun w => (key, w) :: entries) (jsonForm_of_isJsonShaped v hv)

end

theorem isJsonShaped_of_find? {key : String} {entries : List (String × Value)} {w : Value}
    (h : Value.entriesAreJsonShaped entries = true) (hw : Entries.find? key entries = some w) :
    w.isJsonShaped = true := by
  induction entries with
  | nil => simp at hw
  | cons entry entries ih =>
    obtain ⟨k, v⟩ := entry
    obtain ⟨hv, hentries⟩ := Bool.and_eq_true_iff.1 h
    rw [Entries.find?_cons] at hw
    split at hw
    · obtain rfl := Option.some.inj hw
      exact hv
    · exact ih hentries hw

/-- What a path leads to in such a value is such a value. -/
theorem isJsonShaped_of_walk? {keys : List String} {v w : Value} (h : v.isJsonShaped = true)
    (hw : v.walk? keys = some w) : w.isJsonShaped = true := by
  induction keys generalizing v with
  | nil =>
    obtain rfl := Option.some.inj hw
    exact h
  | cons key keys ih =>
    obtain ⟨u, hu, hu'⟩ := Option.bind_eq_some_iff.1 hw
    cases v with
    | map entries => exact ih (isJsonShaped_of_find? h hu) hu'
    | _ => simp [Value.member?] at hu

theorem isJsonShaped_resolve {v : Value} (h : v.isJsonShaped = true) (path : String) :
    (v.resolve path).isJsonShaped = true := by
  rw [Value.resolve, Value.atPath?]
  cases hw : v.walk? (pathSegments path) with
  | none => rfl
  | some w => exact isJsonShaped_of_walk? h hw

/-! ### All kinds of records -/

/-- **The three kinds of records agree.**  A path leads to the same value through a map and through its
entries, and through the document of the map to the JSON form of this value.  If the map has only values
that a document has as they are, a path leads to the same value through all three. -/
theorem resolve_kinds (path : String) (entries : List (String × Value)) :
    Record.resolve path (.entries entries) = Record.resolve path (.value (.map entries)) ∧
    Record.resolve path (.json (Value.map entries).toJson) =
      (Record.resolve path (.value (.map entries))).jsonForm ∧
    ((Value.map entries).isJsonShaped = true →
      Record.resolve path (.json (Value.map entries).toJson) =
        Record.resolve path (.value (.map entries))) := by
  have hjson : Record.resolve path (.json (Value.map entries).toJson) =
      (Record.resolve path (.value (.map entries))).jsonForm :=
    resolve_toJson path (.map entries)
  refine ⟨resolve_entries path entries, hjson, fun h => ?_⟩
  rw [hjson]
  exact jsonForm_of_isJsonShaped _ (isJsonShaped_resolve h path)

/-- A list in a map in a map, and a path that goes on through the list. -/
theorem resolve_kinds_nested :
    let entries := [("a", Value.map [("b", .list [.integer 1, .null])])]
    (Value.map entries).isJsonShaped = true ∧
      Record.resolve "a.b" (.json (Value.map entries).toJson) = .list [.integer 1, .null] ∧
      Record.resolve "a.b.0" (.json (Value.map entries).toJson) = .null := by
  intro entries
  have hshaped : (Value.map entries).isJsonShaped = true := rfl
  exact ⟨hshaped, ((resolve_kinds "a.b" entries).2.2 hshaped).trans rfl,
    ((resolve_kinds "a.b.0" entries).2.2 hshaped).trans rfl⟩

end DisplayFilter
