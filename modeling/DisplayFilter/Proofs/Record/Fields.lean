import DisplayFilter.Proofs.Record.Paths
import DisplayFilter.Proofs.Value.Entries
import DisplayFilter.Table.Fields

/-!
# Listings of fields

A listing goes down through the maps of a record and writes the path of every leaf, while a path is cut
at its dots and walked key by key.  Both meet because the keys of a map have no dot in them: then
different rows of keys are different paths.

* **`sortedNames_exact`** — names in order, each of them once;
* `Value.IsLeaf`, `Value.PlainMaps` — leaves, and values with no dot in the keys of their maps;
* **`mem_leafPaths`** — the paths below a value are those of the rows of keys that lead to its leaves;
* **`mem_nestedNames`** — the paths of a record are those that lead to a leaf;
* **`fieldNames_exact`** — both listings of some records.
-/

namespace DisplayFilter

/-! ### Names in order -/

/-- A name is added to names as a key is to entries. -/
theorem addName_keys (name : String) (entries : Entries Unit) :
    addName name entries.keys = (entries.insert name ()).keys := by
  induction entries with
  | nil => rfl
  | cons entry entries ih =>
    obtain ⟨key, u⟩ := entry
    show addName name (key :: Entries.keys entries) = _
    rw [addName, Entries.insert]
    split
    · next h =>
      rw [h]
      rfl
    · split
      · rfl
      · rw [ih]
        rfl

/-- Names that are the keys of entries in order stay so when more are added, and none gets lost. -/
theorem foldl_addName (names : List String) (entries : Entries Unit) (h : entries.Sorted) :
    ∃ more : Entries Unit, more.Sorted ∧
      names.foldl (fun sorted name => addName name sorted) entries.keys = more.keys ∧
      ∀ name, name ∈ more.keys ↔ name ∈ names ∨ name ∈ entries.keys := by
  induction names generalizing entries with
  | nil => exact ⟨entries, h, rfl, by simp⟩
  | cons first names ih =>
    obtain ⟨more, hsorted, hkeys, hmem⟩ := ih (entries.insert first ()) (h.insert first ())
    refine ⟨more, hsorted, ?_, ?_⟩
    · rw [List.foldl_cons, addName_keys, hkeys]
    · intro name
      rw [hmem, Entries.mem_keys_insert_iff, List.mem_cons, or_left_comm, or_assoc]

/-- **Sorted names** are the names that were to be sorted, in order and each of them once. -/
theorem sortedNames_exact (names : List String) :
    (sortedNames names).Pairwise (· < ·) ∧ ∀ name, name ∈ sortedNames names ↔ name ∈ names := by
  obtain ⟨more, hsorted, hfold, hmem⟩ := foldl_addName names [] .nil
  have hkeys : sortedNames names = more.keys := hfold
  rw [hkeys]
  refine ⟨hsorted, ?_⟩
  intro name
  rw [hmem]
  simp [Entries.keys]

/-! ### Leaves -/

/-- **A leaf:** what is no map, or a map without entries. -/
def Value.IsLeaf (v : Value) : Prop :=
  ∀ entries, v = .map entries → entries = []

/-- **Induction over nested maps:** from the values of all entries of a map to the map. -/
@[elab_as_elim]
theorem Value.mapInduction {motive : Value → Prop} (leaf : ∀ v, v.IsLeaf → motive v)
    (map : ∀ entries, entries ≠ [] → (∀ key w, (key, w) ∈ entries → motive w) →
      motive (.map entries)) (v : Value) : motive v := by
  cases v with
  | map entries =>
    by_cases hnil : entries = []
    · exact leaf _ (fun more hmore => by cases hmore; exact hnil)
    · refine map entries hnil ?_
      intro key w hmem
      have hlt : sizeOf (key, w) < sizeOf entries := List.sizeOf_lt_of_mem hmem
      have hsize : sizeOf (key, w) = 1 + sizeOf key + sizeOf w := rfl
      exact Value.mapInduction leaf map w
  | _ => exact leaf _ (fun entries h => nomatch h)
termination_by sizeOf v
decreasing_by
  simp only [Value.map.sizeOf_spec]
  omega

/-- **Maps with plain keys.**  Whatever map is found in a value, at any depth, has its keys in order, each
of them once, and there is no dot in a key. -/
structure Value.PlainMaps (v : Value) : Prop where
  sorted : ∀ keys entries, Leads Value.member? keys v (.map entries) → Entries.Sorted entries
  plain : ∀ keys entries, Leads Value.member? keys v (.map entries) →
    ∀ key ∈ Entries.keys entries, '.' ∉ key.toList

namespace Value

variable {v w : Value} {key : String}

/-- Members are members of maps. -/
theorem member?_eq_some (h : v.member? key = some w) :
    ∃ entries, v = .map entries ∧ Entries.find? key entries = some w := by
  cases v with
  | map entries => exact ⟨entries, rfl, h⟩
  | _ => nomatch h

/-- A leaf has no members. -/
theorem IsLeaf.member? (h : v.IsLeaf) (key : String) : v.member? key = none := by
  cases hw : v.member? key with
  | none => rfl
  | some w =>
    obtain ⟨entries, rfl, hfind⟩ := member?_eq_some hw
    obtain rfl := h entries rfl
    nomatch hfind

/-- Nothing but a leaf is where no keys lead from it. -/
theorem IsLeaf.leads {keys : List String} (h : v.IsLeaf) (hleads : Leads Value.member? keys v w) :
    keys = [] ∧ v = w := by
  cases hleads with
  | here => exact ⟨rfl, rfl⟩
  | step hstep _ =>
    rw [h.member?] at hstep
    nomatch hstep

theorem PlainMaps.member (h : v.PlainMaps) (hw : v.member? key = some w) : w.PlainMaps :=
  ⟨fun keys entries hleads => h.sorted (key :: keys) entries (.step hw hleads),
    fun keys entries hleads => h.plain (key :: keys) entries (.step hw hleads)⟩

theorem IsLeaf.plainMaps (h : v.IsLeaf) : v.PlainMaps := by
  have hnil : ∀ keys entries, Leads Value.member? keys v (.map entries) → entries = [] := by
    intro keys entries hleads
    exact h entries (h.leads hleads).2
  refine ⟨?_, ?_⟩
  · intro keys entries hleads
    rw [hnil keys entries hleads]
    exact .nil
  · intro keys entries hleads
    rw [hnil keys entries hleads]
    simp [Entries.keys]

/-- A map has plain keys if the values of its entries do and its own keys are plain and in order. -/
theorem plainMaps_map {entries : Entries Value} (hsorted : entries.Sorted)
    (hplain : ∀ key ∈ entries.keys, '.' ∉ key.toList)
    (hvalues : ∀ entry ∈ entries, entry.2.PlainMaps) : (Value.map entries).PlainMaps := by
  refine ⟨?_, ?_⟩
  · intro keys more hleads
    cases hleads with
    | here => exact hsorted
    | step hstep hleads =>
      exact (hvalues _ (Entries.mem_of_find? hstep)).sorted _ more hleads
  · intro keys more hleads
    cases hleads with
    | here => exact hplain
    | step hstep hleads =>
      exact (hvalues _ (Entries.mem_of_find? hstep)).plain _ more hleads

/-- Keys that lead somewhere in such a value have no dot. -/
theorem PlainMaps.keys_plain {keys : List String} (h : v.PlainMaps)
    (hleads : Leads Value.member? keys v w) : ∀ key ∈ keys, '.' ∉ key.toList := by
  induction hleads with
  | here => simp
  | step hstep _ ih =>
    intro key hkey
    cases hkey with
    | head =>
      obtain ⟨entries, rfl, hfind⟩ := member?_eq_some hstep
      exact h.plain [] entries (.here _) _ (Entries.mem_keys_of_find? hfind)
    | tail _ hkey => exact ih (h.member hstep) key hkey

end Value

/-! ### Paths of leaves -/

theorem mem_entryPaths {path name : String} {entries : List (String × Value)} :
    name ∈ entryPaths path entries ↔
      ∃ key v, (key, v) ∈ entries ∧ name ∈ leafPaths (path ++ "." ++ key) v := by
  induction entries with
  | nil => simp [entryPaths]
  | cons entry entries ih =>
    obtain ⟨first, w⟩ := entry
    rw [entryPaths, List.mem_append, ih]
    constructor
    · intro h
      cases h with
      | inl h => exact ⟨first, w, List.mem_cons_self, h⟩
      | inr h =>
        obtain ⟨key, v, hmem, hname⟩ := h
        exact ⟨key, v, List.mem_cons_of_mem _ hmem, hname⟩
    · intro ⟨key, v, hmem, hname⟩
      cases hmem with
      | head => exact Or.inl hname
      | tail _ hmem => exact Or.inr ⟨key, v, hmem, hname⟩

/-- Two keys in front of others are joined like one with a dot in it. -/
theorem intercalate_dotted (path key : String) (keys : List String) :
    ".".intercalate ((path ++ "." ++ key) :: keys) = ".".intercalate (path :: key :: keys) :=
  rfl

theorem leafPaths_of_isLeaf {v : Value} (h : v.IsLeaf) (path : String) :
    leafPaths path v = [path] := by
  cases v with
  | map entries =>
    obtain rfl := h entries rfl
    rfl
  | _ => rfl

theorem leafPaths_map {entries : List (String × Value)} (h : entries ≠ []) (path : String) :
    leafPaths path (.map entries) = entryPaths path entries := by
  cases entries with
  | nil => exact absurd rfl h
  | cons entry entries => rfl

/-- **The paths below a value** are those of the rows of keys that lead to its leaves, each behind the
path of the value. -/
theorem mem_leafPaths {v : Value} (h : v.PlainMaps) {path name : String} :
    name ∈ leafPaths path v ↔
      ∃ keys w, Leads Value.member? keys v w ∧ w.IsLeaf ∧ ".".intercalate (path :: keys) = name := by
  induction v using Value.mapInduction generalizing path with
  | leaf v hleaf =>
    rw [leafPaths_of_isLeaf hleaf, List.mem_singleton]
    constructor
    · intro hname
      exact ⟨[], v, .here v, hleaf, hname.symm⟩
    · intro ⟨keys, w, hleads, _, hname⟩
      obtain ⟨rfl, rfl⟩ := hleaf.leads hleads
      exact hname.symm
  | map entries hne ih =>
    have hmember : ∀ key w, (Value.map entries).member? key = some w ↔ (key, w) ∈ entries :=
      fun key w => (h.sorted [] entries (.here _)).find?_eq_some_iff
    rw [leafPaths_map hne, mem_entryPaths]
    constructor
    · intro ⟨key, v, hmem, hname⟩
      have hstep := (hmember key v).2 hmem
      rw [ih key v hmem (h.member hstep)] at hname
      obtain ⟨keys, w, hleads, hw, hname⟩ := hname
      exact ⟨key :: keys, w, .step hstep hleads, hw, (intercalate_dotted path key keys).symm.trans hname⟩
    · intro ⟨keys, w, hleads, hw, hname⟩
      cases hleads with
      | here => exact absurd (hw entries rfl) hne
      | @step key keys _ v _ hstep hleads =>
        have hmem := (hmember key v).1 hstep
        refine ⟨key, v, hmem, (ih key v hmem (h.member hstep)).2 ?_⟩
        exact ⟨keys, w, hleads, hw, (intercalate_dotted path key keys).trans hname⟩

/-- A path is listed for a record exactly if it is made up of keys that lead to a leaf. -/
theorem mem_nestedNames_iff_leads {v : Value} (h : v.PlainMaps) {path : String} :
    path ∈ nestedNames v ↔
      ∃ keys w, keys ≠ [] ∧ Leads Value.member? keys v w ∧ w.IsLeaf ∧
        ".".intercalate keys = path := by
  cases v with
  | map entries =>
    have hmember : ∀ key w, (Value.map entries).member? key = some w ↔ (key, w) ∈ entries :=
      fun key w => (h.sorted [] entries (.here _)).find?_eq_some_iff
    rw [nestedNames, List.mem_flatMap]
    constructor
    · intro ⟨(key, v), hmem, hpath⟩
      have hstep := (hmember key v).2 hmem
      obtain ⟨keys, w, hleads, hw, hpath⟩ := (mem_leafPaths (h.member hstep)).1 hpath
      exact ⟨key :: keys, w, List.cons_ne_nil _ _, .step hstep hleads, hw, hpath⟩
    · intro ⟨keys, w, hne, hleads, hw, hpath⟩
      cases hleads with
      | here => exact absurd rfl hne
      | @step key keys _ v _ hstep hleads =>
        refine ⟨(key, v), (hmember key v).1 hstep, (mem_leafPaths (h.member hstep)).2 ?_⟩
        exact ⟨keys, w, hleads, hw, hpath⟩
  | _ =>
    constructor
    · intro hpath
      nomatch hpath
    · intro ⟨keys, w, hne, hleads, _, _⟩
      cases hleads with
      | here => exact absurd rfl hne
      | step hstep _ => nomatch hstep

/-- **The paths of a record** are those that lead to a leaf in it. -/
theorem mem_nestedNames {v : Value} (h : v.PlainMaps) {path : String} :
    path ∈ nestedNames v ↔ ∃ w, v.atPath? path = some w ∧ w.IsLeaf := by
  rw [mem_nestedNames_iff_leads h]
  constructor
  · intro ⟨keys, w, hne, hleads, hw, hpath⟩
    have hsegments : pathSegments path = keys :=
      pathSegments_eq_iff.2 ⟨hne, h.keys_plain hleads, hpath⟩
    refine ⟨w, ?_, hw⟩
    rw [Value.atPath?, hsegments]
    exact Value.walk?_eq_some_iff.2 hleads
  · intro ⟨w, hpath, hw⟩
    have hjoined := pathSegments_eq_iff.1 (rfl : pathSegments path = _)
    exact ⟨pathSegments path, w, hjoined.ne_nil, Value.walk?_eq_some_iff.1 hpath, hw, hjoined.joined⟩

/-- The keys of a record are those of the entries if it is a map. -/
theorem mem_topLevelNames {v : Value} {key : String} :
    key ∈ topLevelNames v ↔ ∃ entries, v = .map entries ∧ key ∈ Entries.keys entries := by
  cases v with
  | map entries =>
    constructor
    · intro hkey
      exact ⟨entries, rfl, hkey⟩
    · intro ⟨_, hentries, hkey⟩
      cases hentries
      exact hkey
  | _ =>
    constructor
    · intro hkey
      nomatch hkey
    · intro ⟨_, hentries, _⟩
      nomatch hentries

/-- **The listings of some records,** in whose maps no key has a dot.  With paths, the listing is in order
and has exactly those paths that lead in one of the records to a value that is no map or an empty one;
without, it is in order and has exactly the keys of those records that are maps. -/
theorem fieldNames_exact {records : List Value} (h : ∀ record ∈ records, record.PlainMaps) :
    ((fieldNames true records).Pairwise (· < ·) ∧
      ∀ path, path ∈ fieldNames true records ↔
        ∃ record ∈ records, ∃ v, record.atPath? path = some v ∧ v.IsLeaf) ∧
    (fieldNames false records).Pairwise (· < ·) ∧
      ∀ key, key ∈ fieldNames false records ↔
        ∃ entries, .map entries ∈ records ∧ key ∈ Entries.keys entries := by
  obtain ⟨hnested, hpaths⟩ := sortedNames_exact (records.flatMap nestedNames)
  obtain ⟨hflat, hkeys⟩ := sortedNames_exact (records.flatMap topLevelNames)
  refine ⟨⟨hnested, ?_⟩, hflat, ?_⟩
  · intro path
    show path ∈ sortedNames (records.flatMap nestedNames) ↔ _
    rw [hpaths, List.mem_flatMap]
    apply exists_congr
    intro record
    exact and_congr_right fun hrecord => mem_nestedNames (h record hrecord)
  · intro key
    show key ∈ sortedNames (records.flatMap topLevelNames) ↔ _
    rw [hkeys, List.mem_flatMap]
    constructor
    · intro ⟨record, hrecord, hkey⟩
      obtain ⟨entries, rfl, hmem⟩ := mem_topLevelNames.1 hkey
      exact ⟨entries, hrecord, hmem⟩
    · intro ⟨entries, hrecord, hmem⟩
      exact ⟨.map entries, hrecord, mem_topLevelNames.2 ⟨entries, rfl, hmem⟩⟩

/-- An empty key in a map under an empty key: the path is a dot. -/
theorem fieldNames_exact_empty :
    let inner : Value := .map [("", .null)]
    let records : List Value := [.map [("", inner)]]
    (∀ record ∈ records, record.PlainMaps) ∧ "." ∈ fieldNames true records ∧
      "" ∈ fieldNames false records := by
  intro inner records
  have hnull : Value.IsLeaf .null := fun entries h => nomatch h
  have hsingle : ∀ v : Value, v.PlainMaps → (Value.map [("", v)]).PlainMaps := by
    intro v hv
    refine Value.plainMaps_map (List.pairwise_singleton _ _) (by simp [Entries.keys]) ?_
    intro entry hentry
    obtain rfl := List.mem_singleton.1 hentry
    exact hv
  have hrecords : ∀ record ∈ records, record.PlainMaps := by
    intro record hrecord
    obtain rfl := List.mem_singleton.1 hrecord
    exact hsingle inner (hsingle .null hnull.plainMaps)
  obtain ⟨⟨-, hpaths⟩, -, hkeys⟩ := fieldNames_exact hrecords
  exact ⟨hrecords, (hpaths ".").2 ⟨_, List.mem_singleton_self _, .null, rfl, hnull⟩,
    (hkeys "").2 ⟨_, List.mem_singleton_self _, List.mem_singleton_self _⟩⟩

end DisplayFilter
