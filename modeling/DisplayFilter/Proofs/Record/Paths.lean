import DisplayFilter.Proofs.Text.Pieces
import DisplayFilter.Proofs.Text.Runs
import DisplayFilter.Record

/-!
# Paths, cut at all dots or at the first

The keys of a path are the pieces between its dots.  A walk may take all of them, or the piece in front
of the first dot and then the rest of the path.

* **`pieces_eq_splitOnce`** — the pieces of a text are the one in front of the first separator and
  those of the rest;
* **`pathSegments_plain`**, **`pathSegments_dotted`** — the keys of a path without a dot, and of one with
  a dot;
* `IsPath`, **`pathSegments_eq_iff`** — keys without a dot, joined by dots, and the keys of a path;
* `Leads`, **`leads_iff`** — a walk along keys, and how it is computed.
-/

namespace DisplayFilter

/-! ### Keys -/

/-- **The pieces of a text** are the one in front of the first separator and those of the rest. -/
theorem Text.pieces_eq_splitOnce (separator : Char) (s : List Char) :
    pieces separator s =
      match splitOnce (· == separator) s with
      | none => [s]
      | some (head, rest) => head :: pieces separator rest := by
  induction s with
  | nil => rfl
  | cons c s ih =>
    rw [splitOnce]
    by_cases hc : c = separator
    · subst hc
      rw [if_pos (beq_self_eq_true c), pieces, if_pos rfl]
    · rw [if_neg (by simpa using hc), pieces, if_neg hc, ih]
      cases splitOnce (· == separator) s with
      | none => rfl
      | some answer =>
        obtain ⟨head, rest⟩ := answer
        rfl

/-- **The key of a path without a dot** is the path. -/
theorem pathSegments_plain {path : String}
    (h : Text.splitOnce (· == '.') path.toList = none) : pathSegments path = [path] := by
  rw [pathSegments, Text.pieces_eq_splitOnce, h, List.map_cons, List.map_nil, String.ofList_toList]

/-- **The keys of a path with a dot** are the piece in front of the dot and the keys of the rest. -/
theorem pathSegments_dotted {path : String} {head rest : List Char}
    (h : Text.splitOnce (· == '.') path.toList = some (head, rest)) :
    pathSegments path = String.ofList head :: pathSegments (String.ofList rest) := by
  rw [pathSegments, Text.pieces_eq_splitOnce, h, pathSegments, String.toList_ofList]
  rfl

/-- **A path:** keys without a dot in them, joined by dots. -/
structure IsPath (path : String) (keys : List String) : Prop where
  ne_nil : keys ≠ []
  plain : ∀ key ∈ keys, '.' ∉ key.toList
  joined : ".".intercalate keys = path

/-- **The keys of a path** are those that make it up. -/
theorem pathSegments_eq_iff {path : String} {keys : List String} :
    pathSegments path = keys ↔ IsPath path keys := by
  have hchars : pathSegments path = keys ↔ Text.pieces '.' path.toList = keys.map String.toList := by
    rw [pathSegments]
    constructor
    · rintro rfl
      simp
    · intro h
      simp [h]
  have hjoined : Text.join ['.'] (keys.map String.toList) = path.toList ↔
      ".".intercalate keys = path := by
    rw [← String.toList_inj, Text.toList_intercalate]
    rfl
  rw [hchars, Text.pieces_eq_iff, hjoined]
  constructor
  · intro ⟨hne, hplain, hpath⟩
    exact ⟨by simpa using hne, by simpa using hplain, hpath⟩
  · intro h
    exact ⟨by simpa using h.ne_nil, by simpa using h.plain, h.joined⟩

/-! ### Walks -/

/-- **Walking along keys:** each step goes to the member with the next key. -/
inductive Leads {α : Type} (member? : String → α → Option α) : List String → α → α → Prop
  | here (a : α) : Leads member? [] a a
  | step {key : String} {keys : List String} {a b c : α} :
      member? key a = some b → Leads member? keys b c → Leads member? (key :: keys) a c

/-- **A function that takes one key after the other** finds what the keys lead to. -/
theorem leads_iff {α : Type} {member? : String → α → Option α} {walk? : List String → α → Option α}
    (hnil : ∀ a, walk? [] a = some a)
    (hcons : ∀ key keys a, walk? (key :: keys) a = (member? key a).bind (walk? keys))
    {keys : List String} {a b : α} : walk? keys a = some b ↔ Leads member? keys a b := by
  induction keys generalizing a with
  | nil =>
    rw [hnil]
    constructor
    · intro h
      obtain rfl := Option.some.inj h
      exact .here a
    · intro h
      cases h
      rfl
  | cons key keys ih =>
    rw [hcons, Option.bind_eq_some_iff]
    constructor
    · intro ⟨c, hc, hb⟩
      exact .step hc (ih.1 hb)
    · intro h
      cases h with
      | step hc hb => exact ⟨_, hc, ih.2 hb⟩

theorem Value.walk?_eq_some_iff {keys : List String} {v w : Value} :
    v.walk? keys = some w ↔ Leads Value.member? keys v w :=
  leads_iff (fun _ => rfl) (fun _ _ _ => rfl)

theorem Json.walk?_eq_some_iff {keys : List String} {j k : Json} :
    j.walk? keys = some k ↔ Leads Json.member? keys j k :=
  leads_iff (fun _ => rfl) (fun _ _ _ => rfl)

end DisplayFilter
