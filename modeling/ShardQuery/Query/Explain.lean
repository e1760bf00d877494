import ShardQuery.Query.Execute

namespace ShardQuery

/-- The rows that each step of a query gives. -/
structure RowCounts where
  scanned : Nat
  filtered : Nat
  limited : Nat
deriving DecidableEq, Repr

namespace Explain

/-- One operator a line, each two spaces deeper than the one before. -/
def tree (operators : List String) : String :=
  String.join (operators.mapIdx fun depth op =>
    String.ofList (List.replicate (2 * depth) ' ') ++ op ++ "\n")

/-- The `WHERE` clause; several predicates stand under one `AND`. -/
def condition (selection : List Predicate) : String :=
  match selection with
  | [p] => p.shown
  | ps => "AND(" ++ ", ".intercalate (ps.map Predicate.shown) ++ ")"

def columnName (schema : Schema) (i : Nat) : String := (schema[i]?.map Field.name).getD ""

def logical (q : SelectQuery) (schema : Schema) (positions : List Nat) : List String :=
  let projects := positions.map fun i => columnName schema i ++ "=[$" ++ Decimal.natText i ++ "]"
  let sort := q.limit.toList.map fun n => "LogicalSort(fetch=[" ++ Decimal.natText n ++ "])"
  let filter := if q.selection.isEmpty then []
    else ["LogicalFilter(condition=[" ++ condition q.selection ++ "])"]
  sort ++ ["LogicalProject(" ++ ", ".intercalate projects ++ ")"] ++ filter ++
    ["LogicalTableScan(table=[[main, " ++ q.table ++ "]])"]

def physical (q : SelectQuery) (schema : Schema) (positions : List Nat) (rows : RowCounts) :
    List String :=
  let names := ", ".intercalate (positions.map (columnName schema))
  let counted (op : String) (n : Nat) := op ++ " rows=" ++ Decimal.natText n
  let limit := q.limit.toList.map fun n =>
    counted ("LimitExec(fetch=" ++ Decimal.natText n ++ ")") rows.limited
  let filter := if q.selection.isEmpty then []
    else [counted ("FilterExec(" ++ condition q.selection ++ ")") rows.filtered]
  limit ++ [counted ("ProjectionExec(columns=[" ++ names ++ "])") rows.filtered] ++ filter ++
    [counted ("MemoryScanExec(table=" ++ q.table ++ ", columns=" ++
      Decimal.natText schema.length ++ ")") rows.scanned]

end Explain

namespace SelectQuery

/-- The positions that the query gives, once all columns of its `WHERE` clause are known too. -/
def bindColumns (q : SelectQuery) (schema : Schema) : Except QueryError (List Nat) := do
  let ps ← q.positions schema
  let _ ← q.selection.mapM fun p => columnIndex schema p.column
  .ok ps

def rowCounts (q : SelectQuery) (b : Batch) : Except QueryError RowCounts := do
  let filtered ← q.select b
  .ok ⟨b.size, filtered.size, min (q.limit.getD filtered.size) filtered.size⟩

def explain (q : SelectQuery) (b : Batch) (detailed : Bool) : Except QueryError String := do
  let ps ← q.bindColumns b.schema
  let logical := Explain.tree (Explain.logical q b.schema ps)
  if detailed then
    let rows ← q.rowCounts b
    .ok ("== Logical Plan ==\n" ++ logical ++ "== Physical Plan ==\n" ++
      Explain.tree (Explain.physical q b.schema ps rows))
  else .ok logical

end SelectQuery

end ShardQuery
