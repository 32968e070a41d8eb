import DisplayFilter.Pattern.ClassReading

/-!
# Reading patterns

The notation of regular expressions: `|` between alternatives, the repetitions `?`, `*`, `+` and
`{n,m}`, groups with names and flags, classes, escapes and the places `^` and `$`. There are no
references back and no conditions on the text around a match.

* `Place` — how far a pattern is read, `Branches` — what was read of a group;
* `readRepetition?` — how often the item in front may come;
* `readFlags?`, `readGroupHead?` — what stands behind an opening parenthesis;
* `readBranches?` — the alternatives of a group;
* `Pattern.ofText?` — a pattern that is a whole text.
-/

namespace DisplayFilter

/-! ### Where reading stands -/

/-- **How far a pattern is read:** the flags in force, the names of groups so far, and the text left
to read. -/
structure Place where
  mode : Mode
  names : List String
  rest : List Char

/-- **What was read of a group:** the alternatives so far, the items of the current one with their
depths, and the last of these while it may still be repeated. -/
structure Branches where
  done : Option (Nested Pattern) := none
  front : Pattern := .empty
  items : Depths := {}
  last : Option (Nested Pattern) := none

namespace Branches

/-- One pattern behind another. -/
def join : Pattern → Pattern → Pattern
  | .empty, b => b
  | a, b => .seq a b

/-- The last item may not be repeated any more. -/
def settle (b : Branches) : Branches :=
  match b.last with
  | none => b
  | some a => { b with front := join b.front a.value, items := b.items.push a.depth, last := none }

/-- The items of the current alternative as one pattern. -/
def current (b : Branches) : Nested Pattern :=
  ⟨b.settle.front, b.settle.items.total⟩

/-- One more item. -/
def push (b : Branches) (a : Nested Pattern) : Branches :=
  { b.settle with last := some a }

/-- One more item that matches nothing and may not be repeated. -/
def pushFlags (b : Branches) : Branches :=
  { b.settle with items := b.settle.items.push 0 }

/-- The last item, repeated. -/
def repeated (b : Branches) (a : Nested Pattern) (least : Nat) (most : Option Nat) : Branches :=
  { b with last := some ⟨.repeated a.value least most, a.depth + 1⟩ }

/-- The alternatives so far and the current one. -/
def alternatives (b : Branches) : Nested Pattern :=
  match b.done with
  | none => b.current
  | some a => ⟨.alt a.value b.current.value, max a.depth b.current.depth⟩

/-- All alternatives as one pattern: several of them are a level of their own. -/
def all (b : Branches) : Nested Pattern :=
  if b.done.isSome then ⟨b.alternatives.value, b.alternatives.depth + 1⟩ else b.alternatives

/-- A new alternative. -/
def next (b : Branches) : Branches :=
  { done := some b.alternatives }

end Branches

/-! ### Repetitions -/

/-- A decimal number below `2 ^ 32` with blanks around it, if there are digits. -/
def readCount? (m : Mode) (s : List Char) : Option (Nat × List Char) :=
  let isDigitHere := fun c : Char => c.isDigit || (m.spaced && Text.isBlank c)
  let s := Text.trimStart s
  let digits := (s.takeWhile isDigitHere).filter Char.isDigit
  let n := decimalValue digits
  if digits.isEmpty || 4294967296 ≤ n then none
  else some (n, Text.trimStart (s.dropWhile isDigitHere))

/-- The text behind a question mark that asks for few rounds, if there is one. -/
def skipLazy (s : List Char) : List Char :=
  match s with
  | '?' :: t => t
  | t => t

/-- **Counted repetitions** behind an opening brace: `n}`, `n,}` or `n,m}`. -/
def readCounted? (m : Mode) (s : List Char) : Option (Nat × Option Nat × List Char) := do
  let (least, t) ← readCount? m (skipSpace m s)
  match t with
  | '\x7d' :: t => pure (least, some least, skipLazy (skipSpace m t))
  | ',' :: t =>
    match skipSpace m t with
    | '\x7d' :: t => pure (least, none, skipLazy (skipSpace m t))
    | t => do
      let (most, t) ← readCount? m t
      let t ← Text.dropText? ['\x7d'] t
      if least ≤ most then pure (least, some most, skipLazy (skipSpace m t)) else none
  | _ => none

/-- **How often the item in front may come,** if a repetition starts here; an answer without a
repetition inside is a bad one. -/
def readRepetition? (m : Mode) : List Char → Option (Option (Nat × Option Nat × List Char))
  | '?' :: s => some (some (0, some 1, skipLazy s))
  | '*' :: s => some (some (0, none, skipLazy s))
  | '+' :: s => some (some (1, none, skipLazy s))
  | '\x7b' :: s => some (readCounted? m s)
  | _ => none

/-! ### Groups -/

/-- **Flags** up to a colon or a closing parenthesis: letters, and a dash in front of those that are
switched off. No letter comes twice, and the dash has a letter behind it. -/
def readFlags? (m : Mode) (on : Bool) (seen : List Char) : List Char → Option (Mode × List Char)
  | [] => none
  | c :: s =>
    if c = ':' ∨ c = ')' then
      if seen.head? = some '-' then none else some (m, c :: s)
    else if seen.contains c then none
    else if c = '-' then readFlags? m false (c :: seen) s
    else do
      let m ← m.set? c on
      readFlags? m on (c :: seen) s

/-- Whether a character may stand in the name of a group. -/
def isNameChar (first : Bool) (c : Char) : Bool :=
  if first then c == '_' || Text.isAlphabetic c
  else c == '_' || c == '.' || c == '[' || c == ']' || Text.isAlphanumeric c

/-- The name of a group up to a closing angle bracket. -/
def readName? (s : List Char) : Option (String × List Char) := do
  let (name, rest) ← Text.splitOnce (· == '>') s
  match name with
  | [] => none
  | c :: more =>
    if isNameChar true c && more.all (isNameChar false) then
      pure (String.ofList name, rest)
    else none

/-- **What an opening parenthesis starts.** -/
inductive GroupHead where
  /-- Flags for the rest of the group around it. -/
  | flags (p : Place)
  /-- A group, with the flags in force inside of it. -/
  | group (p : Place)

/-- The name of a group, which no other group has. -/
def readNamed? (p : Place) (s : List Char) : Option GroupHead := do
  let (name, rest) ← readName? s
  if p.names.contains name then none
  else pure (.group { p with names := name :: p.names, rest := rest })

/-- **What stands behind an opening parenthesis.** Conditions on the text around are refused. -/
def readGroupHead? (p : Place) (s : List Char) : Option GroupHead :=
  match skipSpace p.mode s with
  | '?' :: '=' :: _ => none
  | '?' :: '!' :: _ => none
  | '?' :: '<' :: '=' :: _ => none
  | '?' :: '<' :: '!' :: _ => none
  | '?' :: 'P' :: '<' :: t => readNamed? p t
  | '?' :: '<' :: t => readNamed? p t
  | '?' :: t => do
    let (m, rest) ← readFlags? p.mode true [] t
    match rest with
    | ':' :: u => pure (.group { p with mode := m, rest := u })
    | ')' :: u => if t.head? = some ')' then none else pure (.flags { p with mode := m, rest := u })
    | _ => none
  | t => some (.group { p with rest := t })

/-! ### Patterns -/

/-- What an escape matches. -/
def Escape.pattern? (m : Mode) : Escape → Option Pattern
  | .letter c byte => if !m.unicode && byte && 128 ≤ c.toNat then none else some (m.letter c)
  | .set a => m.pattern? a
  | .look condition => some (.look condition)

/-- **One item** that is no group and no repetition. -/
def readSimple? (m : Mode) (c : Char) (s : List Char) : Option (Nested Pattern × List Char) :=
  match c with
  | '\\' => do
    let (e, rest) ← readEscape? m s
    pure (⟨← e.pattern? m, 0⟩, rest)
  | '[' => do
    let (a, rest) ← readClass? m s
    pure (⟨← m.pattern? a.value, a.depth⟩, rest)
  | '.' => m.anyChar?.map (⟨·, 0⟩, s)
  | '^' => some (⟨.look m.startLook, 0⟩, s)
  | '$' => some (⟨.look m.endLook, 0⟩, s)
  | c => some (⟨m.letter c, 0⟩, s)

/-- **The alternatives of a group** up to its closing parenthesis or the end of the text. Every step
reads a character, so that `fuel` characters hold no more of them. -/
def readBranches? : Nat → Branches → Place → Option (Nested Pattern × Place)
  | 0, _, _ => none
  | fuel + 1, b, p =>
    let s := skipSpace p.mode p.rest
    match readRepetition? p.mode s with
    | some none => none
    | some (some (least, most, rest)) =>
      match b.last with
      | none => none
      | some a => readBranches? fuel (b.repeated a least most) { p with rest := rest }
    | none =>
      match s with
      | [] => some (b.all, { p with rest := [] })
      | ')' :: _ => some (b.all, { p with rest := s })
      | '|' :: t => readBranches? fuel b.next { p with rest := t }
      | '(' :: t => do
        match ← readGroupHead? p t with
        | .flags q => readBranches? fuel b.pushFlags q
        | .group q => do
          let (a, q) ← readBranches? fuel {} q
          let rest ← Text.dropText? [')'] q.rest
          readBranches? fuel (b.push ⟨a.value, a.depth + 1⟩) { q with mode := p.mode, rest := rest }
      | c :: t => do
        let (a, rest) ← readSimple? p.mode c t
        readBranches? fuel (b.push a) { p with rest := rest }

/-- The size beyond which a pattern is refused: ten mebibytes, by eights of bytes. -/
def roomBound : Nat := 1310720

/-- The depth beyond which a pattern is refused. -/
def depthBound : Nat := 250

/-- **Reading a pattern.** Nothing if the text is no pattern, or one that is too large or too deep. -/
def Pattern.ofText? (text : String) : Option Pattern :=
  let s := text.toList
  match readBranches? (s.length + 2) {} ⟨{}, [], s⟩ with
  | some (a, p) =>
    if p.rest.isEmpty && a.depth ≤ depthBound && a.value.room ≤ roomBound then some a.value else none
  | none => none

end DisplayFilter
