import DisplayFilter.Pattern.Mode

/-!
# Escapes of patterns

A backslash gives the character behind it another meaning: the character itself, a character by its
number, a class or a condition on a place. An escape without a meaning makes the whole pattern
invalid.

* `Escape` — what an escape stands for;
* `readCode?` — a character by its number;
* `readPropertyClass?` — a class by a property;
* `readEscape?` — the escape behind a backslash.
-/

namespace DisplayFilter

/-- **What an escape stands for.** -/
inductive Escape where
  /-- A character; `byte` if it was written as two digits, and so means a byte where classes are
  not Unicode. -/
  | letter (c : Char) (byte : Bool)
  | set (a : CharSet)
  | look (condition : Look)

/-! ### Characters by number -/

/-- The character of a code point that is no surrogate. -/
def charOf? (n : Nat) : Option Char :=
  if n.isValidChar then some (Char.ofNat n) else none

/-- A character by exactly `count` hexadecimal digits, whose value so far is `value`. -/
def readHexDigits? (m : Mode) : Nat → Nat → List Char → Option (Char × List Char)
  | 0, value, s => (charOf? value).map (·, s)
  | count + 1, value, s =>
    match skipSpace m s with
    | [] => none
    | c :: t => do
      let d ← digitValue? 16 c
      readHexDigits? m count (16 * value + d) t

/-- A character by hexadecimal digits up to a closing brace. -/
def readHexBrace? (m : Mode) (s : List Char) : Option (Char × List Char) := do
  let (digits, rest) ← Text.splitOnce (· == '\x7d') s
  let digits := if m.spaced then digits.filter (!Text.isBlank ·) else digits
  let n ← digitsValue? 16 digits
  pure (← charOf? n, rest)

/-- **A character by its number:** digits in braces, or as many as the letter asks for. -/
def readCode? (m : Mode) (count : Nat) (s : List Char) : Option (Char × Bool × List Char) :=
  match skipSpace m s with
  | '\x7b' :: t => (readHexBrace? m t).map fun (c, rest) => (c, false, rest)
  | t => (readHexDigits? m count 0 t).map fun (c, rest) => (c, count == 2, rest)

/-! ### Classes and places -/

/-- A class by a property: one letter, or a name in braces. -/
def readPropertyClass? (m : Mode) (s : List Char) : Option (CharSet × List Char) :=
  if !m.unicode then none
  else
    match skipSpace m s with
    | [] => none
    | '\\' :: _ => none
    | '\x7b' :: t => do
      let (name, rest) ← Text.splitOnce (· == '\x7d') t
      let name := if m.spaced then name.filter (!Text.isBlank ·) else name
      pure (← propertyClass? name, rest)
    | c :: t => (namedClass? (normalName [c])).map (·, t)

/-- The condition that a name in braces behind `\b` stands for. -/
def wordLook? (m : Mode) (name : String) : Option Look :=
  match name with
  | "start" => some (.wordStart m.word)
  | "end" => some (.wordEnd m.word)
  | "start-half" => some (.noWordBefore m.word)
  | "end-half" => some (.noWordAfter m.word)
  | _ => none

/-- The condition of `\b`: an edge of a word, or the one that braces name. Braces that start with
no letter are left for a repetition. -/
def readWordLook? (m : Mode) (s : List Char) : Option (Look × List Char) :=
  match s with
  | '\x7b' :: t =>
    match skipSpace m t with
    | [] => none
    | c :: u =>
      if c.isAlpha || c == '-' then do
        let (name, rest) ← Text.splitOnce (· == '\x7d') (c :: u)
        let name := if m.spaced then name.filter (!Text.isBlank ·) else name
        pure (← wordLook? m (String.ofList name), rest)
      else some (.wordEdge m.word, s)
  | _ => some (.wordEdge m.word, s)

/-! ### Escapes -/

/-- Whether a backslash in front of a character gives the character itself. -/
def isEscapable (c : Char) : Bool :=
  c.toNat < 128 && !c.isAlphanum && c != '<' && c != '>'

/-- The characters of one-letter escapes. -/
def controlEscape? (c : Char) : Option Char :=
  match c with
  | 'a' => some '\x07'
  | 'f' => some '\x0c'
  | 't' => some '\t'
  | 'n' => some '\n'
  | 'r' => some '\r'
  | 'v' => some '\x0b'
  | _ => none

/-- The classes of one-letter escapes. -/
def classEscape? (m : Mode) (c : Char) : Option CharSet :=
  match c with
  | 'd' => some m.digits
  | 'D' => some (.complement m.digits)
  | 's' => some m.blanks
  | 'S' => some (.complement m.blanks)
  | 'w' => some m.word
  | 'W' => some (.complement m.word)
  | _ => none

/-- The conditions of one-letter escapes besides `\b`. -/
def lookEscape? (m : Mode) (c : Char) : Option Look :=
  match c with
  | 'A' => some .textStart
  | 'z' => some .textEnd
  | 'B' => some (.noWordEdge m.word)
  | '<' => some (.wordStart m.word)
  | '>' => some (.wordEnd m.word)
  | _ => none

/-- How many digits the number behind a letter has. -/
def codeLength? (c : Char) : Option Nat :=
  match c with
  | 'x' => some 2
  | 'u' => some 4
  | 'U' => some 8
  | _ => none

/-- **The escape behind a backslash.** Digits are no escapes: patterns do not look back. -/
def readEscape? (m : Mode) : List Char → Option (Escape × List Char)
  | [] => none
  | c :: s =>
    if isEscapable c then some (.letter c false, s)
    else
      match codeLength? c, controlEscape? c, classEscape? m c, lookEscape? m c with
      | some count, _, _, _ =>
        (readCode? m count s).map fun (c, byte, rest) => (.letter c byte, rest)
      | _, some letter, _, _ => some (.letter letter false, s)
      | _, _, some set, _ => some (.set set, s)
      | _, _, _, some condition => some (.look condition, s)
      | _, _, _, _ =>
        if c = 'b' then
          (readWordLook? m s).map fun (condition, rest) => (.look condition, rest)
        else if c = 'p' then
          (readPropertyClass? m s).map fun (a, rest) => (.set (m.withCase a), rest)
        else if c = 'P' then
          (readPropertyClass? m s).map fun (a, rest) =>
            (.set (.complement (m.withCase a)), rest)
        else none

end DisplayFilter
