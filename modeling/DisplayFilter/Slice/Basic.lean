import DisplayFilter.Number.Layout

/-!
# Slices

A slice names parts of a text, by characters or by the chunks between separators.

* `SliceEntry` — one part: an index, or a half-open range with open or counted bounds;
* `Slice` — the entries in order;
* `Slice.text` — the normalised text of a slice.
-/

namespace DisplayFilter

/-- **One part of a slice.** Negative numbers count from the end. -/
inductive SliceEntry where
  /-- A single chunk or character. -/
  | index (i : Int64)
  /-- From `start`, or from the first, up to but without `stop`, or to the last. -/
  | range (start stop : Option Int64)
  deriving DecidableEq

/-- **A slice:** its parts in order. -/
abbrev Slice := List SliceEntry

/-- The text of a bound, nothing for an open one. -/
def boundText : Option Int64 → List Char
  | none => []
  | some n => (integerText n.toInt).toList

/-- The text of one part. -/
def SliceEntry.chars : SliceEntry → List Char
  | .index i => boundText (some i)
  | .range start stop => boundText start ++ ':' :: boundText stop

/-- The characters of some parts with commas between them. -/
def Slice.entryChars : Slice → List Char
  | [] => []
  | [entry] => entry.chars
  | entry :: more => entry.chars ++ ',' :: Slice.entryChars more

/-- The characters of a slice, brackets included. -/
def Slice.chars (slice : Slice) : List Char :=
  '[' :: Slice.entryChars slice ++ [']']

/-- **The text of a slice** without blanks, ranges with a colon. -/
def Slice.text (slice : Slice) : String :=
  String.ofList (Slice.chars slice)

end DisplayFilter
