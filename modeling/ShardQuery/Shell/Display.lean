import ShardQuery.Shell.Grid
import ShardQuery.Data.Cast
import ShardQuery.Json.Writer

namespace ShardQuery

/-- How results are shown. -/
inductive OutputFormat where
  | table
  | json
  | csv
deriving DecidableEq, Repr

namespace OutputFormat

def all : List OutputFormat := [table, json, csv]

def name : OutputFormat → String
  | table => "table"
  | json => "json"
  | csv => "csv"

def ofName? (s : String) : Option OutputFormat := all.find? (·.name = s)

theorem ofName?_name (f : OutputFormat) : ofName? f.name = some f := by
  cases f <;> decide

end OutputFormat

structure Unwritable where
  row : Nat
  column : Nat
  reason : String
deriving DecidableEq, Repr

def Unwritable.message (u : Unwritable) : String :=
  "Csv error: Error processing row " ++ Decimal.natText u.row ++ ", col " ++
    Decimal.natText u.column ++ ": " ++ u.reason

def hexText (bytes : List UInt8) : String :=
  String.ofList (bytes.flatMap fun b =>
    [Nat.digitChar (b.toNat / 16), Nat.digitChar (b.toNat % 16)])

def Cell.textOrEmpty : Cell → String
  | text s => s
  | _ => ""

def DataType.unshownReason (t : DataType) (c : Cell) : String :=
  let count := match c with
    | .int i => Decimal.intText i
    | _ => ""
  let kind := match t with
    | .timestamp .. => "datetime"
    | _ => "temporal"
  "Cast error: Failed to convert " ++ count ++ " to " ++ kind ++ " for " ++ t.name

/-- The text of a cell of a type, empty for null, or why it has none. -/
def Cell.tryShown (t : DataType) (c : Cell) : Except String String :=
  match t, c with
  | .binary, .text s => .ok (hexText s.toUTF8.toList)
  | _, _ =>
    match Cast.of? t .utf8 with
    | none => .ok ""
    | some convert =>
      match convert c with
      | some shown => .ok shown.textOrEmpty
      | none => .error (t.unshownReason c)

/-- The text of a cell, or the reason in its place. -/
def Cell.shown (t : DataType) (c : Cell) : String :=
  match c.tryShown t with
  | .ok s => s
  | .error reason => "ERROR: " ++ reason

/-- The fields of a row, each with its cell. -/
def Schema.cells (schema : Schema) (row : Row) : List (Field × Cell) := schema.zip row

/-- A cell in a drawn table. A column that holds nothing but nulls shows none of them. -/
def Field.tableText (f : Field) (c : Cell) : String :=
  if c.isNull ∧ f.type ≠ .null then "NULL" else c.shown f.type

namespace Batch

def grid (b : Batch) (maxRows : Nat) : Grid :=
  ⟨b.schema.map Field.name,
    (b.rows.take maxRows).map fun row =>
      (b.schema.cells row).map fun (f, c) => f.tableText c⟩

/-- The first rows as a drawn table, and how many rows it leaves out. -/
def tableText (b : Batch) (maxRows : Nat) : String :=
  (b.grid maxRows).draw ++ "\n" ++
    (if maxRows < b.size then "... " ++ Decimal.natText (b.size - maxRows) ++ " more rows\n"
      else "")

end Batch

/-- A float as a JSON value; the shortest ones are widened first. -/
def Precision.jsonText (p : Precision) (bits : Nat) : String :=
  match p with
  | half => Binary.jsonSingleLayout.write Binary.single (Binary.single.convert Binary.half bits)
  | single => Binary.jsonSingleLayout.write Binary.single bits
  | double => Binary.jsonLayout.write Binary.double bits

/-- A cell that is not null as a JSON value: numbers and truth values bare, all else quoted. -/
def Field.jsonText (f : Field) (c : Cell) : String :=
  match f.type with
  | .float p =>
    match c with
    | .float bits => p.jsonText bits
    | _ => "null"
  | .integer _ | .boolean | .decimal .. => c.shown f.type
  | _ => String.ofList (Json.quotedChars (c.shown f.type))

def Schema.jsonText (schema : Schema) (row : Row) : String :=
  let members := ((schema.cells row).filter fun (_, c) => !c.isNull).map fun (f, c) =>
    String.ofList (Json.quotedChars f.name) ++ ":" ++ f.jsonText c
  "\x7b" ++ ",".intercalate members ++ "\x7d"

def Batch.jsonText (b : Batch) : String :=
  "[" ++ ",".intercalate (b.rows.map b.schema.jsonText) ++ "]\n"

/-- A field of a line: between quotes, with its own quotes doubled, where it must be. -/
def csvField (s : String) : String :=
  if s.toList.any fun c => c = ',' || c = '"' || c = '\n' || c = '\r' then
    "\"" ++ String.ofList (s.toList.flatMap fun c => if c = '"' then ['"', '"'] else [c]) ++ "\""
  else s

/-- A line of fields; one that would be empty has a pair of quotes. -/
def csvLine (fields : List String) : String :=
  let line := ",".intercalate (fields.map csvField)
  (if line = "" then "\"\"" else line) ++ "\n"

/-- The texts of a row, or the column of a cell that has none and the reason. -/
def Schema.csvFields (schema : Schema) (row : Row) : Except (Nat × String) (List String) :=
  (schema.cells row).zipIdx.mapM fun ((f, c), i) => (c.tryShown f.type).mapError fun e => (i, e)

/-- The lines of rows from a number on, up to a cell that cannot be written. -/
def Schema.csvLines (schema : Schema) (number : Nat) : List Row → String × Option Unwritable
  | [] => ("", none)
  | row :: rows =>
    match schema.csvFields row with
    | .ok fields =>
      let (lines, stop) := csvLines schema (number + 1) rows
      (csvLine fields ++ lines, stop)
    | .error (column, reason) => ("", some ⟨number, column + 1, reason⟩)

/-- A header line and a line for each row, with nothing for null. -/
def Batch.csvText (b : Batch) : String × Option Unwritable :=
  let (lines, stop) := b.schema.csvLines 1 b.rows
  (csvLine (b.schema.map Field.name) ++ lines, stop)

/-- The rows in a format, and why they end early if they do; only a table leaves rows out. -/
def Batch.shown (b : Batch) (format : OutputFormat) (maxRows : Nat) :
    String × Option Unwritable :=
  match format with
  | .table => (b.tableText maxRows, none)
  | .json => (b.jsonText, none)
  | .csv => b.csvText

end ShardQuery
