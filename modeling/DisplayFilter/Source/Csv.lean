import DisplayFilter.Text.Utf8

/-!
# Comma separated values

A table is rows of cells. Commas separate cells and line ends separate rows, empty lines aside. A
cell that starts with a quote goes on to the next quote that is not doubled; quotes elsewhere stand
for themselves.

* `CsvMode`, `CsvState` — where reading stands, `CsvState.step` — one byte more;
* `csvRows` — the rows of some bytes;
* `csvTable?` — the same as texts, if every cell is one.
-/

namespace DisplayFilter

/-- **Where in a row reading stands.** -/
inductive CsvMode where
  /-- No cell of the row has started. -/
  | rowStart
  /-- A comma was read and the next cell has not started. -/
  | cellStart
  | cell
  | quoted
  /-- A quote was read inside of a quoted cell: it ends the cell or is the first of two. -/
  | quoteInQuoted
  deriving DecidableEq, Repr

/-- **What was read of a table:** the rows and the cells of the current row, the last ones first,
and the bytes of the current cell, the last one first. -/
structure CsvState where
  rows : List (List (List UInt8)) := []
  cells : List (List UInt8) := []
  bytes : List UInt8 := []
  mode : CsvMode := .rowStart

namespace CsvState

/-- The current cell ends. -/
def endCell (s : CsvState) : CsvState :=
  { s with cells := s.bytes.reverse :: s.cells, bytes := [], mode := .cellStart }

/-- The current row ends. -/
def endRow (s : CsvState) : CsvState :=
  let s := s.endCell
  { s with rows := s.cells.reverse :: s.rows, cells := [], mode := .rowStart }

/-- One more byte of the current cell. -/
def push (s : CsvState) (b : UInt8) (mode : CsvMode) : CsvState :=
  { s with bytes := b :: s.bytes, mode := mode }

/-- A byte outside of quotes that does not open them. -/
def plain (s : CsvState) (b : UInt8) : CsvState :=
  if b = 44 then s.endCell else if b = 10 ∨ b = 13 then s.endRow else s.push b .cell

/-- **One byte.** -/
def step (s : CsvState) (b : UInt8) : CsvState :=
  match s.mode with
  | .rowStart =>
    if b = 10 ∨ b = 13 then s
    else if b = 34 then { s with mode := .quoted }
    else s.plain b
  | .cellStart => if b = 34 then { s with mode := .quoted } else s.plain b
  | .cell => s.plain b
  | .quoted => if b = 34 then { s with mode := .quoteInQuoted } else s.push b .quoted
  | .quoteInQuoted => if b = 34 then s.push b .quoted else s.plain b

/-- The end of the text ends a row that has started. -/
def finish (s : CsvState) : CsvState :=
  if s.mode = .rowStart then s else s.endRow

end CsvState

/-- Bytes without the byte order mark at their start. -/
def dropMark : List UInt8 → List UInt8
  | 0xEF :: 0xBB :: 0xBF :: bytes => bytes
  | bytes => bytes

/-- **The rows** of some bytes. -/
def csvRows (bytes : List UInt8) : List (List (List UInt8)) :=
  ((dropMark bytes).foldl CsvState.step {}).finish.rows.reverse

/-- **The rows as texts,** if every cell is one. -/
def csvTable? (bytes : List UInt8) : Option (List (List String)) :=
  (csvRows bytes).mapM fun row => row.mapM fun cell => (Text.decode? cell).map String.ofList

end DisplayFilter
