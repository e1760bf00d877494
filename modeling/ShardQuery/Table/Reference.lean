import ShardQuery.Data.Batch
import ShardQuery.Error

namespace ShardQuery

/-- What kind of files hold a table. -/
inductive SourceKind where
  | csv
  | parquet
  /-- No files. -/
  | memory
deriving DecidableEq, Repr

namespace SourceKind

def extension (path : String) : String :=
  String.ofList (path.toList.reverse.takeWhile (· ≠ '.')).reverse

/-- The kind of a file by its extension, in any case. -/
def ofPath? (path : String) : Option SourceKind :=
  let ext := Text.lowerAscii (extension path)
  if ext = "csv" ∨ ext = "psv" ∨ ext = "tsv" then some csv
  else if ext = "parquet" then some parquet
  else none

def shown : SourceKind → String
  | csv => "csv"
  | parquet => "parquet"
  | memory => "memory"

def name : SourceKind → String
  | csv => "csv"
  | parquet => "parquet"
  | memory => "inmemory"

def ofName? (s : String) : Option SourceKind := [csv, parquet, memory].find? (·.name = s)

end SourceKind

structure WorkerFiles where
  worker : String
  files : List String
deriving DecidableEq, Repr

/-- A named description of a table's sources. Row groups and uris, if given, go by location. -/
structure TableReference where
  name : String
  kind : SourceKind
  locations : List String
  columnNames : List String := []
  columnTypes : List ColumnType := []
  rowGroups : Option (List (List Nat)) := none
  uris : Option (List String) := none
  mapping : Option (List WorkerFiles) := none
deriving DecidableEq, Repr

namespace TableReference

def inMemory (name : String) : TableReference := { name, kind := .memory, locations := [] }

def hasColumns (t : TableReference) : Bool := !t.columnNames.isEmpty

def schema (t : TableReference) : Schema :=
  (t.columnNames.zip t.columnTypes).map fun (name, type) => ⟨name, type.stored, true⟩

def lengthError (t : TableReference) (text : String) : QueryError :=
  .partition ("Table '" ++ t.name ++ "' has " ++ text)

/-- Checks that lists that go together have one length. -/
def validate (t : TableReference) : Except QueryError Unit :=
  let located := Decimal.natText t.locations.length ++ " locations"
  let groups := (t.rowGroups.map List.length).getD t.locations.length
  let uris := (t.uris.map List.length).getD t.locations.length
  if t.columnNames.length ≠ t.columnTypes.length then
    .error (t.lengthError (Decimal.natText t.columnNames.length ++ " column names but " ++
      Decimal.natText t.columnTypes.length ++ " column types"))
  else if groups ≠ t.locations.length then
    .error (t.lengthError (Decimal.natText groups ++ " row-group id lists for " ++ located))
  else if uris ≠ t.locations.length then
    .error (t.lengthError (Decimal.natText uris ++ " uri values for " ++ located))
  else .ok ()

def schemaOnly (t : TableReference) : TableReference :=
  { t with locations := [], rowGroups := none, uris := none, mapping := none }

/-- The reference with some consecutive locations only. -/
def restrict (t : TableReference) (start len : Nat) : TableReference :=
  { t with
    locations := (t.locations.drop start).take len
    rowGroups := t.rowGroups.map fun ids => (ids.drop start).take len
    uris := t.uris.map fun us => (us.drop start).take len
    mapping := none }

/-- The values at some positions, if both are there and all positions exist. -/
def pick? (values : Option (List α)) (positions : Option (List Nat)) : Option (List α) := do
  let vs ← values
  let ps ← positions
  ps.mapM (vs[·]?)

/-- The reference with other files; what goes by location follows its file, if all are known. -/
def withLocations (t : TableReference) (files : List String) : TableReference :=
  let positions := files.mapM fun f => t.locations.findIdx? (· = f)
  { t with
    locations := files
    rowGroups := pick? t.rowGroups positions
    uris := pick? t.uris positions
    mapping := none }

/-- The row groups to read from the file at a position; none for all of them. -/
def groupsAt (t : TableReference) (i : Nat) : Option (List Nat) := do
  let ids ← t.rowGroups
  ids[i]?

end TableReference

end ShardQuery
