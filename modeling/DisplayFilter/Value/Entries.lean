/-!
# Sorted entries

A map is the list of its entries in the order of their keys, each key once.

* `Entries.insert` — an entry added in its place, or put in place of the one with its key;
* `Entries.ofList` — the entries of a list, later ones winning;
* `Entries.find?` — the value of a key;
* `Entries.keys` — the keys in order;
* `Entries.find?_insert_self` — what was inserted is found.
-/

namespace DisplayFilter

/-- The entries of a map from texts. -/
abbrev Entries (α : Type) := List (String × α)

namespace Entries

variable {α : Type}

/-- The keys in order. -/
def keys (entries : Entries α) : List String :=
  entries.map Prod.fst

/-- The value of the first entry with a key. -/
def find? (key : String) : Entries α → Option α
  | [] => none
  | (k, v) :: entries => if k = key then some v else find? key entries

/-- **Insertion.** The entry takes its place in the order of keys; an entry with the same key gives
way to it. -/
def insert (key : String) (value : α) : Entries α → Entries α
  | [] => [(key, value)]
  | (k, v) :: entries =>
    if key = k then (key, value) :: entries
    else if key < k then (key, value) :: (k, v) :: entries
    else (k, v) :: insert key value entries

/-- The entries of a list, inserted one after the other. -/
def ofList (entries : List (String × α)) : Entries α :=
  entries.foldl (fun es (k, v) => es.insert k v) []

/-- Whether keys are in strict order, as every operation here keeps them. -/
def Sorted (entries : Entries α) : Prop :=
  entries.keys.Pairwise (· < ·)

@[simp] theorem find?_nil (key : String) : find? key ([] : Entries α) = none := rfl

@[simp] theorem find?_cons (key k : String) (v : α) (entries : Entries α) :
    find? key ((k, v) :: entries) = if k = key then some v else find? key entries := rfl

/-- What was inserted is found. -/
@[simp] theorem find?_insert_self (key : String) (value : α) (entries : Entries α) :
    find? key (insert key value entries) = some value := by
  induction entries with
  | nil => simp [insert]
  | cons e entries ih =>
    obtain ⟨k, v⟩ := e
    unfold insert
    split
    · simp
    · next h =>
      split
      · simp
      · simp [Ne.symm h, ih]

/-- Other keys keep their values. -/
theorem find?_insert_of_ne {key other : String} (h : other ≠ key) (value : α)
    (entries : Entries α) : find? key (insert other value entries) = find? key entries := by
  induction entries with
  | nil => simp [insert, h]
  | cons e entries ih =>
    obtain ⟨k, v⟩ := e
    unfold insert
    split
    · next hk => subst hk; simp [h]
    · split
      · simp [h]
      · simp [ih]

end Entries

end DisplayFilter
