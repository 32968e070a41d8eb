import DisplayFilter.Toml.Basic
import DisplayFilter.Toml.Number
import DisplayFilter.Toml.Text

/-!
# Reading TOML documents

A document is a sequence of lines: headers, which say what table the lines below belong to, and
keys with values.

* `readKey?` — a dotted key;
* `readValue`, `readItems`, `readPairs` — a value, the items of an array, the keys and values of a
  table in braces;
* `endLine?` — the end of a line with its comment;
* `readStatement?` — a header, or a key with a value;
* `readDocument?` — the lines of a document, `ofText?` — a whole document.
-/

namespace DisplayFilter.Toml

/-! ### Keys -/

/-- A character of a key without quotes. -/
def isKeyChar (c : Char) : Bool :=
  c.isAlphanum || c == '_' || c == '-'

/-- One part of a dotted key. -/
def readKeyPart? (s : List Char) : Option (String × List Char) :=
  match readQuoted? s with
  | some part => some part
  | none =>
    if (s.takeWhile isKeyChar).isEmpty then none
    else some (String.ofList (s.takeWhile isKeyChar), s.dropWhile isKeyChar)

/-- The parts of a dotted key with blanks around them. -/
def readKeyParts? : Nat → List Char → Option (List String × List Char)
  | 0, _ => none
  | fuel + 1, s => do
    let (part, rest) ← readKeyPart? (s.dropWhile isBlank)
    match rest.dropWhile isBlank with
    | '.' :: t => do
      let (parts, rest) ← readKeyParts? fuel t
      pure (part :: parts, rest)
    | rest => pure ([part], rest)

/-- The greatest number of parts of a key. -/
def greatestKeyLength : Nat := 79

/-- **A dotted key:** its parts with blanks around them, at least one. -/
def readKey? (s : List Char) : Option (List String × List Char) :=
  readKeyParts? greatestKeyLength s

/-! ### Ends of lines -/

/-- The text behind a comment, or the whole text if none starts here. -/
def skipComment : List Char → List Char
  | '#' :: s => s.dropWhile isPlain
  | s => s

/-- **The end of a line:** blanks and a comment, then the next line or the end of the document. -/
def endLine? (s : List Char) : Option (List Char) :=
  match skipComment (s.dropWhile isBlank) with
  | [] => some []
  | rest => newline? rest

/-- The text behind blanks, comments and ends of lines, as they may stand between items. -/
def skipBetween? : Nat → List Char → Option (List Char)
  | 0, _ => none
  | fuel + 1, s =>
    match s.dropWhile isBlank with
    | '#' :: t => newline? (t.dropWhile isPlain) >>= skipBetween? fuel
    | '\n' :: t => skipBetween? fuel t
    | '\r' :: '\n' :: t => skipBetween? fuel t
    | t => some t

/-- How deep arrays and tables in braces may be nested. -/
def greatestDepth : Nat := 79

/-! ### Values -/

/-- A key with a value, added to a table in braces. -/
def assignPair? (entries : List (String × Toml)) (pair : List String × Toml) :
    Option (List (String × Toml)) := do
  assign? pair.1.dropLast (← pair.1.getLast?) pair.2 entries

/-- The table of some keys and values in braces. -/
def ofPairs? (pairs : List (List String × Toml)) : Option Toml :=
  (pairs.foldlM assignPair? []).map (.table .braces)

/-- A value without parts. -/
def readScalar? (s : List Char) : Option (Toml × List Char) :=
  match readString? s, Text.dropText? "true".toList s, Text.dropText? "false".toList s with
  | some (t, rest), _, _ => some (.string t, rest)
  | _, some rest, _ => some (.boolean true, rest)
  | _, _, some rest => some (.boolean false, rest)
  | _, _, _ => ((skipMoment? s).map (.moment, ·)).or ((skipNumber? s).map (.number, ·))

mutual

/-- **A value.** `fuel` bounds the number of parts, `depth` how deep they may be nested. -/
def readValue : Nat → Nat → List Char → Option (Toml × List Char)
  | 0, _, _ => none
  | fuel + 1, depth, s =>
    match s, depth with
    | '[' :: t, depth + 1 => do
      let (items, rest) ← readItems fuel depth t
      pure (.array items, rest)
    | '\x7b' :: t, depth + 1 => do
      match t.dropWhile isBlank with
      | '\x7d' :: rest => pure (.table .braces [], rest)
      | t => do
        let (pairs, rest) ← readPairs fuel depth t
        pure (← ofPairs? pairs, rest)
    | s, _ => readScalar? s

/-- **Items** up to the closing bracket. A comma may stand behind the last one. -/
def readItems : Nat → Nat → List Char → Option (List Toml × List Char)
  | 0, _, _ => none
  | fuel + 1, depth, s => do
    match ← skipBetween? (s.length + 1) s with
    | ']' :: rest => pure ([], rest)
    | t => do
      let (item, rest) ← readValue fuel depth t
      match ← skipBetween? (rest.length + 1) rest with
      | ']' :: rest => pure ([item], rest)
      | ',' :: t => do
        let (items, rest) ← readItems fuel depth t
        pure (item :: items, rest)
      | _ => none

/-- **Keys and values** up to the closing brace, at least one pair, all on one line. -/
def readPairs : Nat → Nat → List Char → Option (List (List String × Toml) × List Char)
  | 0, _, _ => none
  | fuel + 1, depth, s => do
    match ← readKey? s with
    | (key, '=' :: t) => do
      let (value, rest) ← readValue fuel depth (t.dropWhile isBlank)
      match rest.dropWhile isBlank with
      | '\x7d' :: rest => pure ([(key, value)], rest)
      | ',' :: t => do
        let (pairs, rest) ← readPairs fuel depth t
        pure ((key, value) :: pairs, rest)
      | _ => none
    | _ => none

end

/-- A value with enough fuel for its text: two steps read a character at least. -/
def value? (s : List Char) : Option (Toml × List Char) :=
  readValue (2 * s.length + 2) greatestDepth s

/-! ### Lines -/

/-- **A header, or a key with a value,** and the text behind it. -/
def readStatement? (d : TomlDocument) (s : List Char) : Option (TomlDocument × List Char) :=
  match s with
  | '[' :: '[' :: t => do
    match ← readKey? t with
    | (path, ']' :: ']' :: rest) => pure (← d.openElement? path, rest)
    | _ => none
  | '[' :: t => do
    match ← readKey? t with
    | (path, ']' :: rest) => pure (← d.openTable? path, rest)
    | _ => none
  | s => do
    match ← readKey? s with
    | (path, '=' :: t) => do
      let (value, rest) ← value? (t.dropWhile isBlank)
      pure (← d.assign? path.dropLast (← path.getLast?) value, rest)
    | _ => none

/-- **The lines of a document.** Every step reads one of them. -/
def readDocument? : Nat → TomlDocument → List Char → Option TomlDocument
  | _, d, [] => some d
  | 0, _, _ => none
  | fuel + 1, d, s =>
    match endLine? s with
    | some rest => readDocument? fuel d rest
    | none => do
      let (d, rest) ← readStatement? d (s.dropWhile isBlank)
      readDocument? fuel d (← endLine? rest)

/-- The text behind a byte order mark. -/
def skipMark : List Char → List Char
  | c :: s => if c = '\ufeff' then s else c :: s
  | [] => []

/-- **A document** that is a whole text. -/
def ofText? (s : List Char) : Option (List (String × Toml)) :=
  readDocument? (s.length + 1) {} (skipMark s) >>= TomlDocument.close?

end DisplayFilter.Toml
