import DisplayFilter.Slice.Basic
import DisplayFilter.Text.Pieces
import DisplayFilter.Value.Basic

/-!
# Cutting texts

How a slice picks its parts from a text. Without a separator the parts are characters; with one,
an index names a chunk and a bound `n` of a range names the place of the `n`-th separator.

* `SliceError` — an index outside of the text, or a value that has no parts;
* `resolveIndex` — a possibly negative index into a number of parts;
* `cut` — a half-open range of a list, its bounds clamped;
* `chunkBound` — the place in the text that a bound of a range stands for;
* `Slice.pick` — the parts that a slice picks from a text, joined.
-/

namespace DisplayFilter

/-- **Why a value cannot be sliced.** -/
inductive SliceError where
  | indexOutOfRange (index : Int64) (size : Nat)
  | unsliceable (kind : Kind)
  deriving DecidableEq

/-- The wording of a slice error. -/
def SliceError.message : SliceError → String
  | indexOutOfRange index size =>
    "Slice index " ++ integerText index.toInt ++ " out of range for " ++ toString size ++ " parts"
  | unsliceable kind => "Cannot slice a value of type " ++ kind.name

/-- **Indices.** A negative index counts from the end of `size` parts. -/
def resolveIndex (index : Int64) (size : Nat) : Except SliceError Nat :=
  let place := if index.toInt < 0 then index.toInt + size else index.toInt
  if 0 ≤ place ∧ place < size then .ok place.toNat else .error (.indexOutOfRange index size)

/-- A bound of a range, counted from the end where it is negative, between zero and `size`. -/
def clampBound (size : Nat) (bound : Int) : Nat :=
  if bound < 0 then (bound + size).toNat else min bound.toNat size

/-- **Ranges.** The members of a list from a bound up to but without another one; nothing if the
first bound is not below the second. -/
def cut {α : Type} (start stop : Option Int) (s : List α) : List α :=
  let first := (start.map (clampBound s.length)).getD 0
  let last := (stop.map (clampBound s.length)).getD s.length
  (s.take last).drop first

/-- The places of a separator in a text of which the first character has place `first`. -/
def separatorPlaces (separator : Char) : Nat → List Char → List Nat
  | _, [] => []
  | place, c :: s =>
    if c = separator then place :: separatorPlaces separator (place + 1) s
    else separatorPlaces separator (place + 1) s

/-- Which end of a range a bound is. -/
inductive RangeEnd where
  | start
  | stop
  deriving DecidableEq

/-- **Bounds of a range.** Zero stays zero. With a separator, the bound `n` stands for the `n`-th
separator: a range starts behind it and stops in front of it. -/
def chunkBound (separator : Option Char) (s : List Char) (side : RangeEnd) (bound : Int64) :
    Except SliceError Int :=
  match separator with
  | none => .ok bound.toInt
  | some c =>
    if bound = 0 then .ok 0
    else
      let places := separatorPlaces c 0 s
      match resolveIndex (bound - 1) places.length with
      | .error e => .error e
      | .ok i =>
        let place : Int := places.getD i 0
        .ok (if side = .start then place + 1 else place)

/-- A bound that may be open. -/
def optionalBound (separator : Option Char) (s : List Char) (side : RangeEnd) :
    Option Int64 → Except SliceError (Option Int)
  | none => .ok none
  | some bound => (chunkBound separator s side bound).map some

/-- The chunks or characters of a text. -/
def parts (separator : Option Char) (s : List Char) : List (List Char) :=
  match separator with
  | none => s.map ([·])
  | some c => Text.pieces c s

/-- The text that one part of a slice picks. -/
def SliceEntry.pick (separator : Option Char) (s : List Char) :
    SliceEntry → Except SliceError (List Char)
  | .index i => do
    let place ← resolveIndex i (parts separator s).length
    pure ((parts separator s).getD place [])
  | .range start stop => do
    let start ← optionalBound separator s .start start
    let stop ← optionalBound separator s .stop stop
    pure (cut start stop s)

/-- **Slicing.** The texts that the parts of a slice pick, joined by the separator. The first part
that cannot be picked decides the error. -/
def Slice.pick (slice : Slice) (separator : Option Char) (s : List Char) :
    Except SliceError (List Char) := do
  let picked ← slice.mapM (SliceEntry.pick separator s)
  pure (Text.join separator.toList picked)

/-- Slicing a text. -/
def Slice.pickText (slice : Slice) (separator : Option Char) (text : String) :
    Except SliceError String :=
  (slice.pick separator text.toList).map String.ofList

end DisplayFilter
