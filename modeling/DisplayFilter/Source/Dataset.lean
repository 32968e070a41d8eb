import DisplayFilter.Json.Relaxed
import DisplayFilter.Json.Strict
import DisplayFilter.Record
import DisplayFilter.Source.Csv
import DisplayFilter.Source.Format
import DisplayFilter.Text.Blank

/-!
# Datasets

A dataset is the records of one file with the order of their columns.

* `Dataset` — records and columns, `Dataset.ofRecords` — columns as they are first seen;
* `SourceError` — why a file has no dataset;
* `Dataset.ofJson`, `Dataset.ofLines`, `Dataset.ofCsv` — the dataset of some bytes in each format;
* `Dataset.read` — the same for a format that is a value.
-/

namespace DisplayFilter

/-- **A dataset.** -/
structure Dataset where
  columns : List String
  records : List Value

/-- The columns of some records behind known ones: new keys in the order in which they come. -/
def addColumns (columns : List String) : Value → List String
  | .map entries =>
    (Entries.keys entries).foldl
      (fun known key => if known.contains key then known else known ++ [key]) columns
  | _ => columns

namespace Dataset

/-- Records with the columns that they have, in the order in which these are first seen. -/
def ofRecords (records : List Value) : Dataset where
  columns := records.foldl addColumns []
  records := records

/-- The number of records. -/
def size (d : Dataset) : Nat := d.records.length

end Dataset

/-- **Why a file has no dataset.** -/
inductive SourceError where
  /-- The file is missing or no text. -/
  | unreadable
  /-- The text is no document; for documents on lines, the number of the line. -/
  | invalidJson (line : Option Nat)
  | invalidCsv
  /-- Something is no object where a record should be. -/
  | notRecords (found : Kind)
  deriving DecidableEq

/-- **The message** about a file with a path. -/
def SourceError.message (path : String) : SourceError → String
  | unreadable => "Failed to read '" ++ path ++ "'"
  | invalidJson none => "Invalid JSON in '" ++ path ++ "'"
  | invalidJson (some line) => "Invalid JSON in '" ++ path ++ "': line " ++ toString line
  | invalidCsv => "Invalid CSV in '" ++ path ++ "'"
  | notRecords found =>
    "'" ++ path ++ "' does not contain records (expected objects, found " ++ found.name ++ ")"

/-- Whether a value is a map. -/
def isRecord : Value → Bool
  | .map _ => true
  | _ => false

/-- The records of a dataset if all of them are maps, else the kind of the first that is not. -/
def Dataset.ofMaps (records : List Value) : Except SourceError Dataset :=
  match records.find? fun v => !isRecord v with
  | some v => .error (.notRecords v.kind)
  | none => .ok (.ofRecords records)

namespace Dataset

/-- **One document:** an array of objects, or one object. -/
def ofJson (bytes : List UInt8) : Except SourceError Dataset :=
  match Text.decode? bytes with
  | none => .error .unreadable
  | some text =>
    match Json.relaxed.document? text with
    | none => .error (.invalidJson none)
    | some j =>
      match j.toValue with
      | .list items => ofMaps items
      | .map entries => .ok (.ofRecords [.map entries])
      | v => .error (.notRecords v.kind)

/-- The lines of some bytes without their ends; the last line may have none. -/
def lines : List UInt8 → List (List UInt8)
  | [] => []
  | b :: bytes =>
    if b = 10 then [] :: lines bytes
    else if b = 13 ∧ bytes.head? = some 10 then lines bytes
    else
      match lines bytes with
      | [] => [[b]]
      | line :: more => (b :: line) :: more

/-- The record of a line with a number; a blank line has none. -/
def recordOfLine (number : Nat) (line : List UInt8) : Except SourceError (Option Value) :=
  match Text.decode? line with
  | none => .error .unreadable
  | some text =>
    if (Text.trim text).isEmpty then .ok none
    else
      match Json.strict.document? text with
      | none => .error (.invalidJson (some number))
      | some j => if isRecord j.toValue then .ok (some j.toValue)
          else .error (.notRecords j.toValue.kind)

/-- The records of lines that are numbered from `number` on. -/
def recordsOfLines : Nat → List (List UInt8) → Except SourceError (List Value)
  | _, [] => .ok []
  | number, line :: more => do
    let record ← recordOfLine number line
    let records ← recordsOfLines (number + 1) more
    pure (record.toList ++ records)

/-- **One document on each line.** -/
def ofLines (bytes : List UInt8) : Except SourceError Dataset :=
  (recordsOfLines 1 (lines bytes)).map .ofRecords

/-- **A table:** the first row has the names of the columns, all cells are strings. -/
def ofCsv (bytes : List UInt8) : Except SourceError Dataset :=
  match csvTable? bytes with
  | none => .error .invalidCsv
  | some [] => .ok ⟨[], []⟩
  | some (columns :: rows) => .ok ⟨columns, recordsOfRows columns (rows.map (·.map .string))⟩

/-- **The dataset of some bytes.** -/
def read (format : Format) (bytes : List UInt8) : Except SourceError Dataset :=
  match format with
  | .json => ofJson bytes
  | .jsonl => ofLines bytes
  | .csv => ofCsv bytes

end Dataset

end DisplayFilter
