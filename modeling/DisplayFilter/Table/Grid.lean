import DisplayFilter.Text.Pieces
import DisplayFilter.Text.Width

/-!
# Grids

A grid is a header and rows of cells in a frame of lines, and a drawing puts it on the screen.  The
plain drawing is the one without a terminal: it has no width to keep to and no bold letters, so that
every column is as wide as its widest cell, and a cell with several lines makes its row as high.

* `Frame` — the lines around cells, `Frame.rounded` — those with round corners;
* `Grid` — cells with their looks, `Grid.styled` — a header and rows in the shared looks;
* `columnWidths` — the widths of all columns;
* `Frame.drawRow` — the lines of a row;
* `Drawing` — how grids are drawn, `Drawing.plain` — without a terminal.
-/

namespace DisplayFilter

/-! ### Frames -/

/-- **A horizontal line of a frame:** its ends, its stroke, and what it has between two columns. -/
structure Rule where
  left : Char
  stroke : Char
  between : Char
  right : Char

/-- The line for some column widths: one stroke more on both sides of each cell. -/
def Rule.draw (r : Rule) (widths : List Nat) : List Char :=
  r.left :: Text.join [r.between] (widths.map fun w => List.replicate (w + 2) r.stroke)
    ++ [r.right]

/-- **The lines around cells.** -/
structure Frame where
  /-- The line above a grid. -/
  top : Rule
  /-- The line below the header. -/
  header : Rule
  /-- The line between two rows. -/
  row : Rule
  /-- The line below a grid. -/
  bottom : Rule
  /-- The stroke at both ends of a row. -/
  side : Char
  /-- The stroke between two cells of a row. -/
  between : Char

/-- The frame with round corners. -/
def Frame.rounded : Frame where
  top := ⟨'╭', '─', '┬', '╮'⟩
  header := ⟨'╞', '═', '╪', '╡'⟩
  row := ⟨'├', '╌', '┼', '┤'⟩
  bottom := ⟨'╰', '─', '┴', '╯'⟩
  side := '│'
  between := '┆'

/-! ### Grids -/

/-- How wide the columns of a grid are. -/
inductive Arrangement where
  /-- As wide as their cells. -/
  | natural
  /-- As wide as the terminal lets them be, where there is one. -/
  | dynamic
  deriving DecidableEq

/-- A cell of a grid. -/
structure GridCell where
  text : String
  bold : Bool := false

/-- **A grid.** Every row has as many cells as the header. -/
structure Grid where
  frame : Frame
  arrangement : Arrangement
  header : List GridCell
  rows : List (List GridCell)

/-- **A header and rows in the shared looks:** round corners, a bold header, and columns that fit the
terminal. -/
def Grid.styled (header : List String) (rows : List (List String)) : Grid where
  frame := .rounded
  arrangement := .dynamic
  header := header.map fun text => ⟨text, true⟩
  rows := rows.map (·.map fun text => ⟨text, false⟩)

/-! ### Cells -/

/-- The lines of a cell, at least one. -/
def cellLines (cell : String) : List (List Char) :=
  Text.pieces '\n' cell.toList

/-- The width of the widest line of a cell. -/
def cellWidth (cell : String) : Nat :=
  ((cellLines cell).map Text.width).foldl max 0

/-- A line of a cell, filled up to a width. -/
def padLine (width : Nat) (line : List Char) : List Char :=
  line ++ List.replicate (width - Text.width line) ' '

/-! ### Rows -/

/-- **The widths of the columns:** each as wide as its widest cell, and one cell at least. -/
def columnWidths (header : List String) (rows : List (List String)) : List Nat :=
  (rows.map (·.map cellWidth)).foldl (List.zipWith max)
    (header.map fun cell => max 1 (cellWidth cell))

/-- The number of lines of a row: that of its highest cell. -/
def rowHeight (cells : List String) : Nat :=
  (cells.map fun cell => (cellLines cell).length).foldl max 0

namespace Frame

variable (frame : Frame)

/-- A line of a row with a number. -/
def drawRowLine (widths : List Nat) (cells : List String) (number : Nat) : List Char :=
  let parts := List.zipWith
    (fun w cell => ' ' :: padLine w (((cellLines cell)[number]?).getD []) ++ [' ']) widths cells
  frame.side :: Text.join [frame.between] parts ++ [frame.side]

/-- **The lines of a row.** -/
def drawRow (widths : List Nat) (cells : List String) : List (List Char) :=
  (List.range (rowHeight cells)).map (frame.drawRowLine widths cells)

/-- The lines of a header and rows. -/
def drawLines (header : List String) (rows : List (List String)) : List (List Char) :=
  let widths := columnWidths header rows
  [frame.top.draw widths] ++ frame.drawRow widths header ++ [frame.header.draw widths]
    ++ ((rows.map (frame.drawRow widths)).intersperse [frame.row.draw widths]).flatten
    ++ [frame.bottom.draw widths]

end Frame

/-! ### Drawings -/

/-- **A drawing:** the text of each grid, without the end of its last line. -/
abbrev Drawing := Grid → String

/-- **The drawing without a terminal.** -/
def Drawing.plain : Drawing := fun g =>
  String.ofList (Text.join ['\n']
    (g.frame.drawLines (g.header.map GridCell.text) (g.rows.map (·.map GridCell.text))))

end DisplayFilter
