import DisplayFilter.Proofs.Record.Kinds
import DisplayFilter.Proofs.Tree.WrittenForm

/-!
# Presence

A field on its own asks whether the record has something there.  Any word of field characters is such a
question, also one that is spelled like a keyword or an operator or that names a function, because those
only count with a blank, an exclamation mark or a parenthesis at them, which no field has.  The answer is
found by walking through nested maps, one key of the path after the other.

* `Value.Absent`, `Json.Absent` — what does not count as present;
* `Record.Holds` — the walk along keys leads to something present, in a record of any kind;
* **`resolve_isPresent_iff`** — the value of a path is present exactly in this case;
* **`parse_presence`** — a word of field characters is the question for its field;
* **`presence_exact`** — the filter that is a field, and its answer.
-/

namespace DisplayFilter

/-! ### Presence -/

/-- **What does not count as present:** null, the empty text, the empty list and the empty map. -/
inductive Value.Absent : Value → Prop
  | null : Absent .null
  | string : Absent (.string "")
  | list : Absent (.list [])
  | map : Absent (.map [])

/-- What does not count as present in a document. -/
inductive Json.Absent : Json → Prop
  | null : Absent .null
  | string : Absent (.string "")
  | array : Absent (.array [])
  | object : Absent (.object [])

/-- **A value is present** unless it is one of these. -/
theorem Value.isPresent_iff (v : Value) : v.isPresent = true ↔ ¬ v.Absent := by
  have habsent : v.Absent → v.isPresent = false := by
    intro h
    cases h with
    | null => rfl
    | string => rfl
    | list => rfl
    | map => rfl
  constructor
  · intro h ha
    rw [habsent ha] at h
    exact absurd h (by decide)
  · intro h
    cases v with
    | null => exact absurd .null h
    | string s =>
      have hs : s ≠ "" := fun hs => h (hs ▸ .string)
      simpa [isPresent] using hs
    | list items =>
      have hitems : items ≠ [] := fun hitems => h (hitems ▸ .list)
      simpa [isPresent] using hitems
    | map entries =>
      have hentries : entries ≠ [] := fun hentries => h (hentries ▸ .map)
      simpa [isPresent] using hentries
    | _ => rfl

/-- The value of a document is absent exactly if the document is. -/
theorem Json.absent_toValue (j : Json) : j.toValue.Absent ↔ j.Absent := by
  constructor
  · intro h
    cases j with
    | null => exact .null
    | bool b => nomatch h
    | integer n =>
      have hnumber : (Value.ofInt n).Absent := h
      unfold Value.ofInt at hnumber
      split at hnumber
      · nomatch hnumber
      · nomatch hnumber
    | float x => nomatch h
    | string s =>
      have htext : (Value.string s).Absent := h
      cases htext
      exact .string
    | array items =>
      cases items with
      | nil => exact .array
      | cons item items => nomatch h
    | object members =>
      cases members with
      | nil => exact .object
      | cons member members => nomatch h
  · intro h
    cases h with
    | null => exact .null
    | string => exact .string
    | array => exact .list
    | object => exact .map

/-- **Keys that lead to something present,** through the maps of a value, of a document or of the
entries of a map. -/
inductive Record.Holds (keys : List String) : Record → Prop
  | value {v w : Value} : Leads Value.member? keys v w → ¬ w.Absent → Holds keys (.value v)
  | json {j k : Json} : Leads Json.member? keys j k → ¬ k.Absent → Holds keys (.json j)
  | entries {es : List (String × Value)} {w : Value} :
      Leads Value.member? keys (.map es) w → ¬ w.Absent → Holds keys (.entries es)

/-- What may be missing is present exactly if it is there and not absent. -/
theorem isPresent_getD_null {o : Option Value} :
    (o.getD .null).isPresent = true ↔ ∃ v, o = some v ∧ ¬ v.Absent := by
  rw [Value.isPresent_iff]
  cases o with
  | none => simpa using Value.Absent.null
  | some v => simp

theorem Value.resolve_isPresent_iff (path : String) (v : Value) :
    (v.resolve path).isPresent = true ↔
      ∃ w, Leads Value.member? (pathSegments path) v w ∧ ¬ w.Absent := by
  rw [Value.resolve, isPresent_getD_null]
  apply exists_congr
  intro w
  rw [Value.atPath?, Value.walk?_eq_some_iff]

theorem Json.resolve_isPresent_iff (path : String) (j : Json) :
    (j.resolve path).isPresent = true ↔
      ∃ k, Leads Json.member? (pathSegments path) j k ∧ ¬ k.Absent := by
  rw [Json.resolve, isPresent_getD_null]
  constructor
  · intro h
    obtain ⟨v, hv, habsent⟩ := h
    obtain ⟨k, hk, rfl⟩ := Option.map_eq_some_iff.1 hv
    exact ⟨k, Json.walk?_eq_some_iff.1 hk, fun h => habsent ((Json.absent_toValue k).2 h)⟩
  · intro h
    obtain ⟨k, hleads, habsent⟩ := h
    refine ⟨k.toValue, ?_, fun h => habsent ((Json.absent_toValue k).1 h)⟩
    rw [Json.walk?_eq_some_iff.2 hleads, Option.map_some]

/-- **The value of a path is present** exactly if the keys of the path lead to something present. -/
theorem resolve_isPresent_iff (path : String) (record : Record) :
    (record.resolve path).isPresent = true ↔ record.Holds (pathSegments path) := by
  cases record with
  | value v =>
    show (v.resolve path).isPresent = true ↔ _
    rw [Value.resolve_isPresent_iff]
    constructor
    · intro ⟨w, hleads, habsent⟩
      exact .value hleads habsent
    · intro h
      cases h with
      | value hleads habsent => exact ⟨_, hleads, habsent⟩
  | json j =>
    show (j.resolve path).isPresent = true ↔ _
    rw [Json.resolve_isPresent_iff]
    constructor
    · intro ⟨k, hleads, habsent⟩
      exact .json hleads habsent
    · intro h
      cases h with
      | json hleads habsent => exact ⟨_, hleads, habsent⟩
  | entries es =>
    show (Entries.resolve path es).isPresent = true ↔ _
    rw [resolve_entries, Value.resolve_isPresent_iff]
    constructor
    · intro ⟨w, hleads, habsent⟩
      exact .entries hleads habsent
    · intro h
      cases h with
      | entries hleads habsent => exact ⟨_, hleads, habsent⟩

/-! ### The filter -/

/-- **A word of field characters is the question for its field,** whatever it is spelled like. -/
theorem parse_presence {name : String} (hne : name ≠ "")
    (hname : ∀ c ∈ name.toList, isFieldChar c = true) :
    ({} : Parser).parse name = .ok [.leaf { field := name }] := by
  have hchars : Expression.chars { field := name } = name.toList := by
    simp [Expression.chars, Expression.subject]
  have hwritable : Expression.Writable {} { field := name } :=
    { licensed := ⟨by simp, by simp, by simp⟩
      named := ⟨by simpa using hne, hname, by simp⟩
      slice := by simp
      literal := by simp }
  have hnegation : negation? (Expression.chars { field := name }) = none := by
    rw [hchars, ← List.append_nil name.toList]
    exact negation?_name (by simpa using hne) hname (Text.stops_nil _) (Or.inr (Text.stops_nil _))
  have htext : Expression.text { field := name } = name := by
    rw [Expression.text, hchars, String.ofList_toList]
  have hparse := parse_expression plainNames_standard hwritable hnegation
  rw [htext] at hparse
  exact hparse

/-- **A field as a filter.**  A word of field characters is read as the question for its field alone, and
a record of any kind satisfies it exactly if the keys between the dots of the word, empty ones included,
lead through its maps to something that is not null, the empty text, the empty list or the empty map. -/
theorem presence_exact {name : String} (hne : name ≠ "")
    (hname : ∀ c ∈ name.toList, isFieldChar c = true) :
    ({} : Filter).parse name = .ok [.leaf { field := name }] ∧
      ∃ keys, IsPath name keys ∧
        ∀ (f : Filter) (record : Record),
          ∃ answer, f.satisfies [.leaf { field := name }] record = .ok answer ∧
            (answer = true ↔ record.Holds keys) := by
  refine ⟨parse_presence hne hname, pathSegments name, pathSegments_eq_iff.1 rfl, ?_⟩
  intro f record
  have hleaf : f.leaf record { field := name } = .ok (record.resolve name).isPresent := rfl
  exact ⟨_, satisfies_leaf hleaf, resolve_isPresent_iff name record⟩

/-- A word that is a keyword and a dot, and a document with an empty key. -/
theorem presence_exact_keyword :
    let record : Record := .json (.object [("not", .object [("", .integer 0)])])
    "not." ≠ "" ∧ (∀ c ∈ "not.".toList, isFieldChar c = true) ∧ IsPath "not." ["not", ""] ∧
      ({} : Filter).satisfies [.leaf { field := "not." }] record = .ok true := by
  intro record
  have hne : "not." ≠ "" := by decide
  have hname : ∀ c ∈ "not.".toList, isFieldChar c = true := List.all_eq_true.1 (by decide)
  have hpath : IsPath "not." ["not", ""] := pathSegments_eq_iff.1 rfl
  obtain ⟨-, keys, hkeys, hanswer⟩ := presence_exact hne hname
  obtain ⟨answer, hsatisfies, hiff⟩ := hanswer {} record
  have hholds : record.Holds keys := by
    rw [← pathSegments_eq_iff.2 hkeys, pathSegments_eq_iff.2 hpath]
    exact .json (.step rfl (.step rfl (.here _))) (fun h => nomatch h)
  exact ⟨hne, hname, hpath, hiff.2 hholds ▸ hsatisfies⟩

end DisplayFilter
