import DisplayFilter.Number.Reading
import DisplayFilter.Text.Pieces

/-!
# Strings of TOML documents

Strings come in four kinds: between double quotes with escapes, between single quotes as they stand,
and both of these between three quotes, where they may go over several lines.

* `isPlain` — the characters that need no escape;
* `newline?` — the text behind the end of a line;
* `readEscape?` — one escape;
* `readLine?`, `readLines?` — what stands behind the opening quotes of a string of one line, of
  several lines;
* `readString?` — a string of any kind.
-/

namespace DisplayFilter.Toml

/-! ### Characters -/

/-- **Plain characters:** a tab, and what is no control character. -/
def isPlain (c : Char) : Bool :=
  c == '\t' || (0x20 ≤ c.toNat && c.toNat != 0x7F)

/-- A blank within a line. -/
def isBlank (c : Char) : Bool :=
  c == ' ' || c == '\t'

/-- **The text behind the end of a line:** a line feed, with or without a carriage return. -/
def newline? : List Char → Option (List Char)
  | '\n' :: s => some s
  | '\r' :: '\n' :: s => some s
  | _ => none

/-- The number of hexadecimal digits, exactly as many as are asked for. -/
def readHex? (count : Nat) (s : List Char) : Option (Nat × List Char) :=
  if (s.take count).length = count then
    (digitsValueFrom? 16 0 (s.take count)).map (·, s.drop count)
  else none

/-- A character by its code point; half of a pair is no character. -/
def readCode? (count : Nat) (s : List Char) : Option (Char × List Char) := do
  let (n, rest) ← readHex? count s
  if n < 0xD800 ∨ (0xE000 ≤ n ∧ n < 0x110000) then pure (Char.ofNat n, rest) else none

/-- **An escape** behind its backslash. -/
def readEscape? : List Char → Option (Char × List Char)
  | 'b' :: s => some ('\x08', s)
  | 't' :: s => some ('\t', s)
  | 'n' :: s => some ('\n', s)
  | 'f' :: s => some ('\x0c', s)
  | 'r' :: s => some ('\r', s)
  | '"' :: s => some ('"', s)
  | '\\' :: s => some ('\\', s)
  | 'u' :: s => readCode? 4 s
  | 'U' :: s => readCode? 8 s
  | _ => none

/-! ### Strings of one line -/

/-- **A string of one line** behind its opening quote; only double quotes admit escapes. Every step
reads a character, so that `fuel` characters hold no more of them. -/
def readLine? (quote : Char) : Nat → List Char → Option (List Char × List Char)
  | 0, _ => none
  | _ + 1, [] => none
  | fuel + 1, c :: s =>
    if c = quote then some ([], s)
    else if c = '\\' ∧ quote = '"' then do
      let (d, rest) ← readEscape? s
      let (more, rest) ← readLine? quote fuel rest
      pure (d :: more, rest)
    else if isPlain c then do
      let (more, rest) ← readLine? quote fuel s
      pure (c :: more, rest)
    else none

/-! ### Strings of several lines -/

/-- The text behind blanks and ends of lines. -/
def skipLines : List Char → List Char
  | [] => []
  | c :: s =>
    if isBlank c || c == '\n' then skipLines s
    else if c = '\r' ∧ s.head? = some '\n' then skipLines s
    else c :: s

/-- **The text behind a backslash at the end of a line:** blanks up to the end of the line, then all
blanks and ends of lines. -/
def continued? (s : List Char) : Option (List Char) :=
  (newline? (s.dropWhile isBlank)).map skipLines

/-- **The end of a string of several lines:** the last three of a run of quotes close it, and at
most two more stand in front of them. The result is the quotes that belong to the string. -/
def closing? (quote : Char) (s : List Char) : Option (List Char × List Char) :=
  let quotes := (s.takeWhile (· == quote)).length
  if 3 ≤ quotes then some (s.take (min (quotes - 3) 2), s.drop (min quotes 5)) else none

/-- **A string of several lines** behind its opening quotes. The end of a line is always a line
feed, however it is written. -/
def readLines? (quote : Char) : Nat → List Char → Option (List Char × List Char)
  | 0, _ => none
  | fuel + 1, s =>
    match closing? quote s with
    | some closed => some closed
    | none =>
      match s with
      | [] => none
      | c :: t =>
        if c = '\\' ∧ quote = '"' then
          match continued? t with
          | some rest => readLines? quote fuel rest
          | none => do
            let (d, rest) ← readEscape? t
            let (more, rest) ← readLines? quote fuel rest
            pure (d :: more, rest)
        else
          match newline? s with
          | some rest => do
            let (more, rest) ← readLines? quote fuel rest
            pure ('\n' :: more, rest)
          | none =>
            if isPlain c then do
              let (more, rest) ← readLines? quote fuel t
              pure (c :: more, rest)
            else none

/-- The end of a line right behind three opening quotes does not belong to the string. -/
def skipNewline (s : List Char) : List Char :=
  (newline? s).getD s

/-! ### All kinds -/

/-- A string of one line with its quotes, as keys have them too. -/
def readQuoted? : List Char → Option (String × List Char)
  | '"' :: s => (readLine? '"' (s.length + 1) s).map fun (t, rest) => (String.ofList t, rest)
  | '\'' :: s => (readLine? '\'' (s.length + 1) s).map fun (t, rest) => (String.ofList t, rest)
  | _ => none

/-- **A string** of any kind with its quotes. -/
def readString? (s : List Char) : Option (String × List Char) :=
  match s with
  | '"' :: '"' :: '"' :: t =>
    (readLines? '"' (t.length + 1) (skipNewline t)).map fun (u, rest) => (String.ofList u, rest)
  | '\'' :: '\'' :: '\'' :: t =>
    (readLines? '\'' (t.length + 1) (skipNewline t)).map fun (u, rest) => (String.ofList u, rest)
  | s => readQuoted? s

end DisplayFilter.Toml
