import ShardQuery.Source.Csv
import ShardQuery.Source.Files
import ShardQuery.Data.Conform
import ShardQuery.Table.Plan

namespace ShardQuery

namespace FileStore

/-- The bytes of a file of delimited text. A directory has none. -/
def readPlain (store : FileStore) (path : String) : Except QueryError (List UInt8) :=
  match store.lookup path with
  | .missing => .error .missingFile
  | .file (.plain bytes) => .ok bytes
  | _ => .error .malformedCsv

def readColumnar (store : FileStore) (path : String) : Except QueryError ColumnarFile :=
  match store.lookup path with
  | .missing => .error .missingFile
  | .file (.columnar file) => .ok file
  | _ => .error (.parquet "not a columnar file")

def schemaOf (store : FileStore) (kind : SourceKind) (path : String) :
    Except QueryError Schema :=
  match kind with
  | .csv => do
    let bytes ← store.readPlain path
    Csv.inferSchema (Csv.records (Csv.delimiter path) bytes)
  | .parquet => (store.readColumnar path).map ColumnarFile.schema
  | .memory => .ok []

end FileStore

namespace ColumnarFile

/-- The rows of some groups in the order listed, of all groups without a list. -/
def rows (file : ColumnarFile) (path : String) (groups : Option (List Nat)) :
    Except QueryError (List Row) :=
  match groups with
  | none => .ok file.groups.flatten
  | some ids =>
    match ids.find? (file.groups.length ≤ ·) with
    | some bad =>
      .error (.planning ("Row group " ++ Decimal.natText bad ++ " requested from " ++ path ++
        " which has " ++ Decimal.natText file.groups.length ++ " row groups"))
    | none => .ok (ids.flatMap fun i => file.groups.getD i [])

end ColumnarFile

namespace TableReference

/-- The type to declare for a column that a file shows. -/
def declaredType (path : String) (f : Field) : Except QueryError ColumnType :=
  match ColumnType.ofStored? f.type with
  | some t => .ok t
  | none =>
    .error (.schema ("Column '" ++ f.name ++ "' in " ++ path ++ " has unsupported type " ++
      f.type.name))

/-- The reference with the columns of its first file, unless it has columns or no files. -/
def resolve (store : FileStore) (t : TableReference) : Except QueryError TableReference :=
  match t.locations with
  | [] => .ok t
  | path :: _ =>
    if t.hasColumns ∨ t.kind = .memory then .ok t
    else do
      let schema ← store.schemaOf t.kind path
      let types ← schema.mapM (declaredType path)
      .ok { t with columnNames := schema.map Field.name, columnTypes := types }

/-- The rows of the file at a position, under the columns that the file has. -/
def readFile (store : FileStore) (t : TableReference) (path : String) (i : Nat) :
    Except QueryError Batch :=
  match t.kind with
  | .csv => do
    let bytes ← store.readPlain path
    Csv.read (Csv.delimiter path) t.schema bytes
  | .parquet => do
    let file ← store.readColumnar path
    let rows ← file.rows path (t.groupsAt i)
    .ok ⟨file.schema, rows⟩
  | .memory =>
    .error (.planning ("In-memory table '" ++ t.name ++ "' cannot be loaded from '" ++ path ++
      "'"))

/-- The rows of the file at a position under the declared columns; no rows always conform. -/
def loadFile (store : FileStore) (t : TableReference) (path : String) (i : Nat) :
    Except QueryError Batch := do
  let b ← t.readFile store path i
  if b.rows = [] then .ok (.empty t.schema) else b.conform t.schema

def load (store : FileStore) (t : TableReference) : Except QueryError Batch := do
  let batches ← t.locations.zipIdx.mapM fun (path, i) => t.loadFile store path i
  .ok (Batch.concat t.schema batches)

end TableReference

namespace Slice

def load (store : FileStore) (s : Slice) : Except QueryError Batch := s.table.load store

def whole (t : TableReference) : Slice := ⟨t, ⟨0, t.locations.length⟩, none⟩

end Slice

end ShardQuery
