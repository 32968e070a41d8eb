import DisplayFilter.Pattern.Escape

/-!
# Reading character classes

A class in brackets is a union of characters, ranges, named classes and classes in brackets again;
`&&`, `--` and `~~` combine the unions on both of their sides from left to right. What is read is told
with its depth: brackets, unions of several items and combinations are a level each.

* `Nested` — what was read, with its depth; `Depths` — the depths of parts in a row;
* `SetOperator` — the three combinations;
* `readItem?` — a character, an escape or a range;
* `readPosix?` — a named class;
* `readClass?` — a class behind its opening bracket.
-/

namespace DisplayFilter

/-! ### Depths -/

/-- **What was read, with its depth:** how many levels of a pattern are inside of each other. -/
structure Nested (α : Type) where
  value : α
  depth : Nat

/-- **The depths of parts in a row:** how many parts there are, and the depth of the deepest. -/
structure Depths where
  count : Nat := 0
  deepest : Nat := 0

namespace Depths

/-- One more part. -/
def push (parts : Depths) (depth : Nat) : Depths :=
  ⟨parts.count + 1, max parts.deepest depth⟩

/-- The depth of the row: several parts are a level of their own. -/
def total (parts : Depths) : Nat :=
  if parts.count ≤ 1 then parts.deepest else parts.deepest + 1

end Depths

/-! ### Combinations -/

/-- **How two unions are combined.** -/
inductive SetOperator where
  | intersection
  | difference
  | symmetric

/-- The set that an operator makes of two. -/
def SetOperator.apply : SetOperator → CharSet → CharSet → CharSet
  | intersection, a, b => .inter a b
  | difference, a, b => .difference a b
  | symmetric, a, b => .symmetricDifference a b

/-- A union combined with the set on its left, if there is one. -/
def combine (m : Mode) (left : Option (Nested CharSet × SetOperator)) (right : Nested CharSet) :
    Nested CharSet :=
  match left with
  | none => right
  | some (a, op) =>
    ⟨op.apply (m.withCase a.value) (m.withCase right.value), max a.depth right.depth + 1⟩

/-! ### Items -/

/-- What stands at one place inside of brackets. -/
inductive Member where
  | letter (c : Char)
  | set (a : CharSet)

/-- A character or an escape inside of brackets; conditions on places do not stand there. -/
def readMember? (m : Mode) : List Char → Option (Member × List Char)
  | [] => none
  | '\\' :: s =>
    match readEscape? m s with
    | some (.letter c _, rest) => some (.letter c, rest)
    | some (.set a, rest) => some (.set a, rest)
    | _ => none
  | c :: s => some (.letter c, s)

/-- Whether a character may stand in a class of this mode. -/
def admits (m : Mode) (c : Char) : Bool :=
  m.unicode || c.toNat < 128

/-- What stands behind a dash is an end of the class or an operator, so that the dash stands for
itself. -/
def dashStandsAlone (m : Mode) (s : List Char) : Bool :=
  match skipSpace m s with
  | ']' :: _ => true
  | '-' :: _ => true
  | _ => false

/-- **One item of a class:** a range, a character or an escape. -/
def readItem? (m : Mode) (s : List Char) : Option (CharSet × List Char) := do
  let (first, rest) ← readMember? m s
  let alone : Option (CharSet × List Char) :=
    match first with
    | .letter c => if admits m c then some (.single c, rest) else none
    | .set a => some (a, rest)
  match skipSpace m rest with
  | [] => none
  | '-' :: t =>
    if dashStandsAlone m t then alone
    else
      match first, readMember? m (skipSpace m t) with
      | .letter low, some (.letter high, rest) =>
        if low ≤ high && admits m low && admits m high then
          some (.range low.toNat high.toNat, rest)
        else none
      | _, _ => none
  | _ => alone

/-- A named class behind `[`: a colon, perhaps `^`, the name and `:]`. -/
def readPosix? (s : List Char) : Option (CharSet × List Char) := do
  let t ← Text.dropText? [':'] s
  let (negated, t) :=
    match t with
    | '^' :: u => (true, u)
    | u => (false, u)
  let (name, t) ← Text.splitOnce (· == ':') t
  let rest ← Text.dropText? [']'] t
  let a ← posixClass? (String.ofList name)
  pure (if negated then .complement a else a, rest)

/-! ### Classes -/

/-- The dashes at the start of a class, which stand for themselves, and a bracket that closes
nothing because nothing was there; with the number of these characters. -/
def readStart (m : Mode) : List Char → CharSet × Nat × List Char
  | '-' :: s =>
    let isDashHere := fun c : Char => c == '-' || (m.spaced && Text.isBlank c)
    (.single '-', (s.takeWhile isDashHere).count '-' + 1, s.dropWhile isDashHere)
  | ']' :: s => (.single ']', 1, s)
  | s => (.none, 0, s)

/-- **A class behind its opening bracket.** `left` is what stands in front of the last operator,
`union` what was read since, with the depths of its items in `items`; `negated` says whether the class
started with `^`. Every step reads a character, so that `fuel` characters hold no more of them. -/
def readClassFrom? (m : Mode) :
    Nat → Bool → Option (Nested CharSet × SetOperator) → CharSet → Depths → List Char →
      Option (Nested CharSet × List Char)
  | 0, _, _, _, _, _ => none
  | fuel + 1, negated, left, union, items, s =>
    let whole := combine m left ⟨union, items.total⟩
    let operator := fun (op : SetOperator) (t : List Char) =>
      readClassFrom? m fuel negated (some (whole, op)) .none {} t
    match skipSpace m s with
    | [] => none
    | ']' :: t =>
      let a := m.withCase whole.value
      some (⟨if negated then .complement a else a, whole.depth + 1⟩, t)
    | '&' :: '&' :: t => operator .intersection t
    | '-' :: '-' :: t => operator .difference t
    | '~' :: '~' :: t => operator .symmetric t
    | '[' :: t =>
      match readPosix? t with
      | some (a, rest) => readClassFrom? m fuel negated left (.union union a) (items.push 0) rest
      | none => do
        let t := skipSpace m t
        let (inner, t) :=
          match t with
          | '^' :: u => (true, skipSpace m u)
          | u => (false, u)
        let (start, count, t) := readStart m t
        let (a, rest) ← readClassFrom? m fuel inner none start ⟨count, 0⟩ t
        readClassFrom? m fuel negated left (.union union a.value) (items.push a.depth) rest
    | t => do
      let (a, rest) ← readItem? m t
      readClassFrom? m fuel negated left (.union union a) (items.push 0) rest

/-- **A class behind its opening bracket.** -/
def readClass? (m : Mode) (s : List Char) : Option (Nested CharSet × List Char) :=
  let s := skipSpace m s
  let (negated, s) :=
    match s with
    | '^' :: t => (true, skipSpace m t)
    | t => (false, t)
  let (start, count, s) := readStart m s
  readClassFrom? m (s.length + 1) negated none start ⟨count, 0⟩ s

end DisplayFilter
