import DisplayFilter.Function.Builtin
import DisplayFilter.Text.Alphabetic
import DisplayFilter.Tree.Basic
import DisplayFilter.Tree.Fault

/-!
# Parsing filters

```text
field                      the field is present
field op value             a comparison
field[slice] op value      a comparison of a part of the field
func(field) op value       a comparison of a function of the field
not expr, !expr            negation
expr and expr              also `&&`; `or`, `||`; `xor`, `^^`, `^`
( expr )                   grouping
```

Operators and connectives stand between blanks. The parser keeps connectives in the order in which
they are written; which of them binds tighter is decided where a tree is reduced.

* `Parser` — the fields and functions that filters may name;
* `Parser.field`, `Parser.expression` — a field, and a comparison or a presence test;
* `chain` — operands with connectives between them, `Parser.operand` — one operand;
* `Parser.parse` — a whole filter.
-/

namespace DisplayFilter

/-- **A parser:** the fields that filters may name, any field if there are none, and the functions
that they may use. -/
structure Parser where
  fieldNames : List String := []
  functions : FunctionTable := FunctionTable.standard

/-! ### Fields and slices -/

/-- The characters of a field name. -/
def isFieldChar (c : Char) : Bool :=
  c.isAlphanum || c == '_' || c == '-' || c == '.'

/-- A field of any name: the longest run of field characters. -/
def anyField (s : List Char) : Except (ParseFault (List Char)) (String × List Char) :=
  let word := s.takeWhile isFieldChar
  if word.isEmpty then .error (.expectedField s)
  else .ok (String.ofList word, s.dropWhile isFieldChar)

/-- A field out of a list of names: the longest of them that the text starts with. -/
def knownField (names : List String) (s : List Char) :
    Except (ParseFault (List Char)) (String × List Char) :=
  match Text.longestStart? names s with
  | some name => .ok (name, s.drop name.length)
  | none =>
    let word := s.takeWhile isFieldChar
    if word.isEmpty then .error (.expectedField s)
    else .error (.unknownField (String.ofList word))

/-- **A field.** -/
def Parser.field (p : Parser) (s : List Char) :
    Except (ParseFault (List Char)) (String × List Char) :=
  if p.fieldNames.isEmpty then anyField s else knownField p.fieldNames s

/-- A slice, if there is one. -/
def sliceAt (s : List Char) : Except (ParseFault (List Char)) (Option Slice × List Char) :=
  match Slice.read s with
  | .ok answer => .ok answer
  | .error stop => .error (.slice stop.cause)

/-! ### Comparisons -/

/-- The first of some words, in any case of letters and with blanks behind it, that the text
starts with: what it stands for and the text behind the blanks. -/
def keyword? {α : Type} (words : List (String × α)) (s : List Char) : Option (α × List Char) :=
  words.findSome? fun (word, meaning) =>
    ((Text.dropCaseless? word.toList s).bind blanks?).map (meaning, ·)

/-- The operator of a comparison, with blanks on both sides. -/
def operatorAt? (s : List Char) : Option (Operator × List Char) :=
  (blanks? s).bind (keyword? Operator.spellings)

/-- **The right half of a comparison,** if an operator follows. -/
def comparisonAt (s : List Char) :
    Except (ParseFault (List Char)) (Option Comparison × List Char) :=
  match operatorAt? s with
  | none => .ok (none, s)
  | some (operator, t) =>
    match Literal.read t with
    | .ok (literal, rest) => .ok (some ⟨operator, literal⟩, rest)
    | .error stop => .error (.literal stop.cause)

/-! ### Expressions -/

/-- The characters of a word that looks like a function in front of a parenthesis. -/
def isCallChar (c : Char) : Bool :=
  Text.isAlphanumeric c || c == '_'

/-- The word in front of an opening parenthesis that the text starts with. -/
def calledWord? (s : List Char) : Option String :=
  let word := s.takeWhile isCallChar
  if !word.isEmpty && (s.dropWhile isCallChar).head? == some '(' then some (String.ofList word)
  else none

/-- The function that is called here, and the text behind its opening parenthesis. -/
def Parser.callAt? (p : Parser) (s : List Char) : Option (Function × List Char) := do
  let f ← p.functions.longestAt? s
  match s.drop f.name.length with
  | '(' :: t => some (f, t)
  | _ => none

/-- A comparison of a function of a field, behind the opening parenthesis. -/
def Parser.callBody (p : Parser) (f : Function) (s : List Char) :
    Except (ParseFault (List Char)) (Expression × List Char) := do
  let (field, s) ← p.field (Text.trimStart s)
  let (slice, s) ← sliceAt s
  match Text.trimStart s with
  | ')' :: t => do
    let (comparison, rest) ← comparisonAt t
    match comparison with
    | some c => pure (⟨field, slice, some f, some c⟩, rest)
    | none => .error (.functionAlone f.name rest)
  | t => .error (.expectedArgumentEnd t)

/-- A field that is compared, or asked for its presence. -/
def Parser.fieldExpression (p : Parser) (s : List Char) :
    Except (ParseFault (List Char)) (Expression × List Char) := do
  let (field, s) ← p.field s
  let (slice, s) ← sliceAt s
  let (comparison, rest) ← comparisonAt s
  if slice.isSome && comparison.isNone then .error (.sliceAlone rest)
  else pure (⟨field, slice, none, comparison⟩, rest)

/-- **An expression.** A word in front of a parenthesis has to be a function. -/
def Parser.expression (p : Parser) (s : List Char) :
    Except (ParseFault (List Char)) (Expression × List Char) :=
  match p.callAt? s with
  | some (f, t) => p.callBody f t
  | none =>
    match calledWord? s with
    | some name => .error (.unknownFunction name)
    | none => p.fieldExpression s

/-! ### Connectives -/

/-- The text behind a negation: `not` with blanks behind it, or an exclamation mark that does not
start `!=`, with or without blanks. -/
def negation? (s : List Char) : Option (List Char) :=
  match (Text.dropCaseless? ['n', 'o', 't'] s).bind blanks? with
  | some rest => some rest
  | none =>
    match s with
    | '!' :: '=' :: _ => none
    | '!' :: t => some (Text.trimStart t)
    | _ => none

/-- A connective between two operands, with blanks on both sides. -/
def connectiveAt? (s : List Char) : Option (Connective × List Char) :=
  (blanks? s).bind (keyword? Connective.spellings)

/-- The connectives and operands behind the first operand. Each takes a character at least, so that
`fuel` characters hold no more of them. -/
def chainTail (operand : List Char → Except (ParseFault (List Char)) (Node × List Char)) :
    Nat → List Char → Except (ParseFault (List Char)) (List Node × List Char)
  | 0, s => .ok ([], s)
  | fuel + 1, s =>
    match connectiveAt? s with
    | none => .ok ([], s)
    | some (c, t) => do
      let (x, rest) ← operand t
      let (more, rest) ← chainTail operand fuel rest
      pure (.connective c :: x :: more, rest)

/-- **Operands with connectives between them.** A single operand stays as it is, several make one
flat group. -/
def chain (operand : List Char → Except (ParseFault (List Char)) (Node × List Char))
    (s : List Char) : Except (ParseFault (List Char)) (Node × List Char) := do
  let (first, rest) ← operand s
  let (more, rest) ← chainTail operand rest.length rest
  pure (if more.isEmpty then first else .group (first :: more), rest)

/-- **One operand:** a negated operand, a chain in parentheses or an expression. Where the operand
of `not` cannot be read, a comparison of a field called `not` may stand. A level of nesting takes a
character at least, so that `depth` characters hold no more levels. -/
def Parser.operand (p : Parser) :
    Nat → List Char → Except (ParseFault (List Char)) (Node × List Char)
  | 0, s => (p.expression s).map fun (e, rest) => (.leaf e, rest)
  | depth + 1, s =>
    match negation? s with
    | some t =>
      match p.operand depth t with
      | .ok (x, rest) => .ok (.group [.connective .not, x], rest)
      | .error fault =>
        match p.expression s with
        | .ok (e, rest) => if e.comparison.isSome then .ok (.leaf e, rest) else .error fault
        | .error _ => .error fault
    | none =>
      match s with
      | '(' :: t =>
        match Text.trimStart t with
        | ')' :: u => .error (.emptyParentheses (')' :: u))
        | u => do
          let (x, rest) ← chain (p.operand depth) u
          match Text.trimStart rest with
          | ')' :: rest => .ok (x, rest)
          | rest => .error (.expectedClosing rest)
      | _ => (p.expression s).map fun (e, rest) => (.leaf e, rest)

/-! ### Filters -/

/-- The tree of a filter of which no blank stands in front. -/
def Parser.parseChars (p : Parser) (s : List Char) :
    Except (ParseFault (List Char)) FilterTree := do
  let (root, rest) ← chain (p.operand s.length) s
  match Text.trimStart rest with
  | [] => pure [root]
  | rest => .error (.unexpected (String.ofList rest) rest)

/-- **Parsing.** A blank filter has the empty tree, every other one a tree of one node. Positions in
faults are bytes of the filter. -/
def Parser.parse (p : Parser) (filter : String) : Except ParseError FilterTree :=
  let s := Text.trimStart filter.toList
  if s.isEmpty then .ok []
  else
    (p.parseChars s).mapError fun fault =>
      ⟨filter, fault.mapPlace (Text.bytePosition filter.toList)⟩

end DisplayFilter
