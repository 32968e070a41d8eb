import DisplayFilter.Lexeme
import DisplayFilter.Slice.Basic

/-!
# Reading slices

A slice stands in brackets: indices `[0]`, half-open ranges `[1:3]`, `[:2]`, `[2:]`, ranges `[1-2]`
that count from one and include their end, and any of these with commas between them.

* `SliceFault` — what is wrong with a slice and where, `SliceFault.message` — its wording;
* `SliceEntry.read` — one part, `Slice.readEntries` — the parts up to the closing bracket;
* `Slice.read` — a slice at the start of a text, if a bracket opens there;
* `Slice.ofText` — a slice that is the whole text, blanks at its ends apart.
-/

namespace DisplayFilter

/-- **What is wrong with a slice.** Places are texts left to read, or positions. -/
inductive SliceFault (ℓ : Type) where
  | expectedIndex (place : ℓ)
  | expectedEnd (place : ℓ)
  | expectedRangeEnd (place : ℓ)
  | expectedSeparator (place : ℓ)
  | trailing (rest : String)
  | expectedBracket (text : String)
  deriving Repr, DecidableEq

namespace SliceFault

/-- The fault with its place seen in another way. -/
def mapPlace {ℓ ℓ' : Type} (f : ℓ → ℓ') : SliceFault ℓ → SliceFault ℓ'
  | expectedIndex place => expectedIndex (f place)
  | expectedEnd place => expectedEnd (f place)
  | expectedRangeEnd place => expectedRangeEnd (f place)
  | expectedSeparator place => expectedSeparator (f place)
  | trailing rest => trailing rest
  | expectedBracket text => expectedBracket text

/-- The wording of a fault. -/
def message : SliceFault Nat → String
  | expectedIndex place => "expected slice index at position " ++ toString place
  | expectedEnd place => "expected slice end at position " ++ toString place
  | expectedRangeEnd place => "expected range end at position " ++ toString place
  | expectedSeparator place => "expected ',' or ']' in slice at position " ++ toString place
  | trailing rest => "unexpected input after slice: '" ++ rest ++ "'"
  | expectedBracket text => "expected '[' in slice '" ++ text ++ "'"

end SliceFault

/-- Why and where reading a slice ended early. -/
abbrev SliceStop := Stop (SliceFault (List Char))

/-- A bound that has to be there; where it is not, `fault` says so. -/
def readBound (fault : List Char → SliceFault (List Char)) (s : List Char) :
    Except SliceStop (Int64 × List Char) :=
  match Lexeme.integer? s with
  | some answer => .ok answer
  | none => .error ⟨fault s, s⟩

/-- **Ranges with a dash** count from one and include their end: `a-b` is `[a - 1, b)`. A negative
start counts from the end as it is. -/
def SliceEntry.ofDash (start stop : Int64) : SliceEntry :=
  .range (some (if start < 0 then start else start - 1)) (some stop)

/-- What follows the first bound of a part: a colon with an optional bound, a dash with a bound, or
nothing of the two. -/
def SliceEntry.readFrom (start : Int64) (s : List Char) :
    Except SliceStop (SliceEntry × List Char) :=
  match Text.trimStart s with
  | ':' :: t =>
    match Lexeme.integer? (Text.trimStart t) with
    | some (stop, rest) => .ok (.range (some start) (some stop), rest)
    | none => .ok (.range (some start) none, t)
  | '-' :: t => do
    let (stop, rest) ← readBound .expectedRangeEnd (Text.trimStart t)
    pure (.ofDash start stop, rest)
  | _ => .ok (.index start, s)

/-- **One part of a slice.** -/
def SliceEntry.read : List Char → Except SliceStop (SliceEntry × List Char)
  | ':' :: s => do
    let (stop, rest) ← readBound .expectedEnd (Text.trimStart s)
    pure (.range none (some stop), rest)
  | s => do
    let (start, rest) ← readBound .expectedIndex s
    SliceEntry.readFrom start rest

/-- **The parts of a slice** with commas between them and the closing bracket. A part takes a
character at least, so that `fuel` characters hold no more parts. -/
def Slice.readEntries : Nat → List Char → Except SliceStop (Slice × List Char)
  | 0, s => .error ⟨.expectedIndex s, s⟩
  | fuel + 1, s => do
    let (entry, rest) ← SliceEntry.read (Text.trimStart s)
    match Text.trimStart rest with
    | ',' :: t => do
      let (more, rest) ← readEntries fuel t
      pure (entry :: more, rest)
    | ']' :: t => .ok ([entry], t)
    | t => .error ⟨.expectedSeparator t, t⟩

/-- **A slice at the start of a text,** or nothing if no bracket opens there. -/
def Slice.read : List Char → Except SliceStop (Option Slice × List Char)
  | '[' :: s => do
    let (slice, rest) ← Slice.readEntries (s.length + 1) s
    pure (some slice, rest)
  | s => .ok (none, s)

/-- **A slice that is a whole text,** blanks at its ends apart. -/
def Slice.ofText (s : String) : Except (SliceFault Nat) Slice :=
  let text := Text.trim s.toList
  match Slice.read text with
  | .error stop => .error (stop.cause.mapPlace (Text.bytePosition text))
  | .ok (none, _) => .error (.expectedBracket s)
  | .ok (some slice, []) => .ok slice
  | .ok (some _, rest) => .error (.trailing (String.ofList rest))

end DisplayFilter
