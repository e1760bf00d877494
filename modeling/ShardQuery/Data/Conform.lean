import ShardQuery.Data.Cast

namespace ShardQuery

namespace Batch

/-- A batch of rows, refused without columns or with a null where none is allowed. -/
def ofRows (schema : Schema) (rows : List Row) : Except QueryError Batch :=
  if schema = [] then .error .invalidBatch
  else if rows.any fun row => (schema.zip row).any fun (f, c) => f.refuses c then
    .error .invalidBatch
  else .ok ⟨schema, rows⟩

/-- The rows whose cells stand in columns. -/
def transposed (rows : Nat) (columns : List (List Cell)) : List Row :=
  columns.foldr (List.zipWith (· :: ·)) (List.replicate rows [])

/-- The cells for a field: the column of its name, cast, or nulls. -/
def cellsFor (b : Batch) (f : Field) : Except QueryError (List Cell) :=
  match b.schema.indexOf? f.name with
  | none => .ok (List.replicate b.size .null)
  | some i => Cast.column ((b.schema[i]?.map Field.type).getD .null) f.type (b.column i)

/-- The batch under a schema; the first column that cannot be cast gives the error. -/
def conform (b : Batch) (schema : Schema) : Except QueryError Batch :=
  if b.schema = schema then .ok b
  else do
    let columns ← schema.mapM b.cellsFor
    ofRows schema (transposed b.size columns)

end Batch

end ShardQuery
