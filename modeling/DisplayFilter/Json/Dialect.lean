import DisplayFilter.Json.Basic
import DisplayFilter.Number.Reading

/-!
# Reading JSON documents

The strict notation of JSON and the relaxed one that people write by hand share the structure of
arrays and objects. They differ in what may stand between the parts, in numbers, strings and names,
and in whether a comma may stand behind the last part.

* `Dialect` — these differences;
* `Dialect.readValue`, `readItems`, `readMembers` — a document, items and members;
* `Dialect.document?` — a document that is a whole text;
* `readUnit?`, `readUnicode?` — characters by the numbers of their UTF-16 units;
* `readWord?` — the words for null and truth values.
-/

namespace DisplayFilter.Json

/-! ### Shared parts -/

/-- A number of exactly four hexadecimal digits. -/
def readUnit? (s : List Char) : Option (Nat × List Char) :=
  let digits := s.take 4
  if digits.length = 4 then (digitsValueFrom? 16 0 digits).map (·, s.drop 4) else none

/-- **A character by its UTF-16 units** behind `\u`: one unit, or two of which the second one is
written with `\u` again. Units that make no character are refused. -/
def readUnicode? (s : List Char) : Option (Char × List Char) := do
  let (high, rest) ← readUnit? s
  if 0xD800 ≤ high ∧ high < 0xDC00 then
    match rest with
    | '\\' :: 'u' :: t => do
      let (low, rest) ← readUnit? t
      if 0xDC00 ≤ low ∧ low < 0xE000 then
        pure (Char.ofNat (0x10000 + (high - 0xD800) * 0x400 + (low - 0xDC00)), rest)
      else none
    | _ => none
  else if 0xDC00 ≤ high ∧ high < 0xE000 then none
  else pure (Char.ofNat high, rest)

/-- The words for null and truth values. -/
def readWord? (s : List Char) : Option (Json × List Char) :=
  match Text.dropText? "null".toList s, Text.dropText? "true".toList s,
    Text.dropText? "false".toList s with
  | some rest, _, _ => some (.null, rest)
  | _, some rest, _ => some (.bool true, rest)
  | _, _, some rest => some (.bool false, rest)
  | _, _, _ => none

/-! ### Dialects -/

/-- **A way to write documents.** -/
structure Dialect where
  /-- The text behind blanks and comments; nothing if a comment does not end. -/
  skip? : List Char → Option (List Char)
  /-- A document without parts. -/
  scalar? : List Char → Option (Json × List Char)
  /-- The name of a member. -/
  name? : List Char → Option (String × List Char)
  /-- Whether a comma may stand behind the last part. -/
  trailingComma : Bool
  /-- How many arrays and objects may stand inside of each other. -/
  depth : Option Nat

namespace Dialect

/-- How deep parts may be nested inside of one more array or object, if it is admitted. -/
def deeper? : Option Nat → Option (Option Nat)
  | none => some none
  | some 0 => none
  | some (n + 1) => some (some n)

mutual

/-- **A document at the start of a text.** Two steps read a character at least. -/
def readValue (d : Dialect) : Nat → Option Nat → List Char → Option (Json × List Char)
  | 0, _, _ => none
  | fuel + 1, depth, s => do
    match ← d.skip? s with
    | '[' :: t => do
      let depth ← deeper? depth
      match ← d.skip? t with
      | ']' :: rest => pure (.array [], rest)
      | t => do
        let (items, rest) ← d.readItems fuel depth t
        pure (.array items, rest)
    | '\x7b' :: t => do
      let depth ← deeper? depth
      match ← d.skip? t with
      | '\x7d' :: rest => pure (.object [], rest)
      | t => do
        let (members, rest) ← d.readMembers fuel depth t
        pure (.object (Entries.ofList members), rest)
    | t => d.scalar? t

/-- **Items** up to the closing bracket, at least one. -/
def readItems (d : Dialect) : Nat → Option Nat → List Char → Option (List Json × List Char)
  | 0, _, _ => none
  | fuel + 1, depth, s => do
    let (item, rest) ← d.readValue fuel depth s
    match ← d.skip? rest with
    | ']' :: rest => pure ([item], rest)
    | ',' :: t => do
      match ← d.skip? t with
      | ']' :: rest => if d.trailingComma then pure ([item], rest) else none
      | t => do
        let (items, rest) ← d.readItems fuel depth t
        pure (item :: items, rest)
    | _ => none

/-- **Members** up to the closing brace, at least one. -/
def readMembers (d : Dialect) :
    Nat → Option Nat → List Char → Option (List (String × Json) × List Char)
  | 0, _, _ => none
  | fuel + 1, depth, s => do
    let (name, rest) ← d.name? s
    match ← d.skip? rest with
    | ':' :: t => do
      let (member, rest) ← d.readValue fuel depth t
      match ← d.skip? rest with
      | '\x7d' :: rest => pure ([(name, member)], rest)
      | ',' :: t => do
        match ← d.skip? t with
        | '\x7d' :: rest => if d.trailingComma then pure ([(name, member)], rest) else none
        | t => do
          let (members, rest) ← d.readMembers fuel depth t
          pure ((name, member) :: members, rest)
      | _ => none
    | _ => none

end

/-- **A document that is a whole text,** with what may stand around it. -/
def document? (d : Dialect) (s : List Char) : Option Json := do
  let (j, rest) ← d.readValue (2 * s.length + 2) d.depth s
  if (← d.skip? rest).isEmpty then pure j else none

end Dialect

end DisplayFilter.Json
