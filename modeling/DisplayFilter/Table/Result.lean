import DisplayFilter.Filter
import DisplayFilter.Json.Text
import DisplayFilter.Source.Dataset
import DisplayFilter.Table.Grid

/-!
# Result tables

The records of a dataset that satisfy a filter, and how they are shown. The time that a query took
is known to the one who asked it only, so that it comes in where it is shown.

* `Nanoseconds`, `secondsText` — times and how they are written;
* `ResultTable` — records with the columns to show, `ResultTable.query` — those of a query;
* `ResultTable.footer`, `render` — a table with a line below, whatever draws it;
  `ResultTable.json` — a document.
-/

namespace DisplayFilter

/-! ### Times -/

/-- A length of time in nanoseconds. -/
abbrev Nanoseconds := Nat

/-- A time in seconds, as a number with a fraction. -/
def inSeconds (time : Nanoseconds) : Binary64 :=
  let part := (Binary64.ofNat (time % 1000000000)).div (Binary64.ofNat 1000000000)
  match Binary64.ofNat (time / 1000000000), part with
  | .finite _ whole, .finite _ part => Binary64.addUnsigned whole part
  | whole, _ => whole

/-- A time with two decimal places. -/
def secondsText (time : Nanoseconds) : String :=
  (inSeconds time).fixed 2

/-! ### Queries -/

/-- **Why a query has no result.** -/
inductive QueryError where
  | parsing (e : ParseError)
  | evaluation (e : EvaluationError)

/-- **The records that satisfy a filter,** with the columns of their dataset. -/
structure ResultTable where
  columns : List String
  rows : List Value

/-- The value that is a record. -/
def Record.toValue : Record → Value
  | .value v => v
  | .json j => j.toValue
  | .entries es => .map es

/-- All records of some items, or the first error among them. -/
def rowsOf : List (Except EvaluationError Record) → Except EvaluationError (List Value)
  | [] => .ok []
  | .ok record :: items => (rowsOf items).map (record.toValue :: ·)
  | .error e :: _ => .error e

namespace ResultTable

/-- **A query:** the records of a dataset that satisfy a filter text, and the lines of the log. -/
def query (f : Filter) (text : String) (d : Dataset) :
    Except QueryError ResultTable × List LogLine :=
  match f.filter text (d.records.map .value) with
  | .error e => (.error (.parsing e), [])
  | .ok selection =>
    let (items, log) := selection.collect
    let log := Filter.parsingLog text selection.tree ++ log
    match rowsOf items with
    | .error e => (.error (.evaluation e), log)
    | .ok rows => (.ok ⟨d.columns, rows⟩, log)

/-! ### Showing -/

/-- The number of rows in words. -/
def countText (t : ResultTable) : String :=
  match t.rows.length with
  | 0 => "Empty set"
  | 1 => "1 row in set"
  | n => toString n ++ " rows in set"

/-- **The line below a table.** -/
def footer (t : ResultTable) (elapsed : Nanoseconds) : String :=
  t.countText ++ " (" ++ secondsText elapsed ++ " secs)"

/-- The text of a cell: strings stand as they are, null and what is absent as nothing. -/
def cellText : Option Value → String
  | none => ""
  | some .null => ""
  | some (.string s) => s
  | some v => v.text

/-- The cells of a row. -/
def cells (t : ResultTable) (row : Value) : List String :=
  t.columns.map fun column => cellText (row.atPath? column)

/-- The rows in a frame. -/
def grid (t : ResultTable) : Grid :=
  .styled t.columns (t.rows.map t.cells)

/-- The lines above the blank line: the rows in a frame if there are any. -/
def body (t : ResultTable) (draw : Drawing) : String :=
  if t.rows.isEmpty then "" else draw t.grid ++ "\n"

/-- **A table as it is shown:** the rows in a frame, a blank line and the line below. -/
def render (t : ResultTable) (elapsed : Nanoseconds) (draw : Drawing := .plain) : String :=
  t.body draw ++ "\n" ++ t.footer elapsed ++ "\n"

/-- **The rows as one document** on several lines. -/
def json (t : ResultTable) : String :=
  (Json.array (t.rows.map Value.toJson)).pretty

end ResultTable

end DisplayFilter
