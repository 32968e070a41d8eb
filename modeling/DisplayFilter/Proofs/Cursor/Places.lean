import DisplayFilter.Proofs.Cursor.Boundaries
import DisplayFilter.Proofs.Tree.Derivation

/-!
# Places of faults

A fault names positions of the text.  A reader of texts names end pieces instead, a cursor the positions of
these.

* `RangeFault.OnBoundaries`, `SliceFault.OnBoundaries`, `LiteralFault.OnBoundaries`,
  **`ParseFault.OnBoundaries`** — the positions that a fault names are boundaries;
* `RangeFault.Reports`, `SliceFault.Reports`, `LiteralFault.Reports`, `ParseFault.Reports` — a cursor's fault
  for that of a reader.
-/

namespace DisplayFilter

open Text

/-- The position that a fault of a range names is a boundary. -/
def RangeFault.OnBoundaries (s : List Char) : RangeFault Nat → Prop
  | expectedOctets place => IsBoundary s place
  | expectedOctet place => IsBoundary s place
  | expectedLength place => IsBoundary s place
  | octetTooLarge _ => True
  | emptyInterval _ _ => True
  | lengthOfMany => True
  | invalidLength _ => True

/-- The position that a fault of a slice names is a boundary. -/
def SliceFault.OnBoundaries (s : List Char) : SliceFault Nat → Prop
  | expectedIndex place => IsBoundary s place
  | expectedEnd place => IsBoundary s place
  | expectedRangeEnd place => IsBoundary s place
  | expectedSeparator place => IsBoundary s place
  | trailing _ => True
  | expectedBracket _ => True

/-- The position that a fault of a literal names is a boundary.  The reason for a bad address has positions
of the piece that it is about, which is a part of the text. -/
def LiteralFault.OnBoundaries (s : List Char) : LiteralFault Nat → Prop
  | mismatchedQuotes place => IsBoundary s place
  | expectedValue place => IsBoundary s place
  | invalidList place => IsBoundary s place
  | invalidAddress piece reason => piece.toList <:+: s ∧ reason.OnBoundaries piece.toList

/-- **The positions that a fault names** are boundaries: of the text, or of the part of the text that the
fault is about where it is an address. -/
def ParseFault.OnBoundaries (s : List Char) : ParseFault Nat → Prop
  | unexpected _ place => IsBoundary s place
  | emptyParentheses place => IsBoundary s place
  | expectedClosing place => IsBoundary s place
  | expectedField place => IsBoundary s place
  | expectedArgumentEnd place => IsBoundary s place
  | sliceAlone place => IsBoundary s place
  | functionAlone _ place => IsBoundary s place
  | literal fault => fault.OnBoundaries s
  | slice fault => fault.OnBoundaries s
  | unknownField _ => True
  | unknownFunction _ => True

/-- A fault of a range with positions, for one with end pieces. -/
def RangeFault.Reports (src : List Char) (stop : RangeStop) (e : RangeFault Nat) : Prop :=
  e = stop.cause.mapPlace (bytePosition src) ∧ e.OnBoundaries src

/-- A fault of a slice with positions, for one with end pieces. -/
def SliceFault.Reports (src : List Char) (stop : SliceStop) (e : SliceFault Nat) : Prop :=
  e = stop.cause.mapPlace (bytePosition src) ∧ e.OnBoundaries src

/-- A fault of a literal with positions, for one with end pieces. -/
def LiteralFault.Reports (src : List Char) (stop : LiteralStop) (e : LiteralFault Nat) : Prop :=
  e = stop.cause.mapPlace (bytePosition src) ∧ e.OnBoundaries src

/-- A fault with positions, for one with end pieces. -/
def ParseFault.Reports (src : List Char) (fault : ParseStop) (e : ParseFault Nat) : Prop :=
  e = fault.mapPlace (bytePosition src) ∧ e.OnBoundaries src

end DisplayFilter
