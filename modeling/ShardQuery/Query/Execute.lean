import ShardQuery.Query.Syntax
import ShardQuery.Data.Cast
import ShardQuery.Error

namespace ShardQuery

/-- What cells and constants are compared by. -/
inductive Key where
  | number (i : Int)
  | text (s : String)
deriving DecidableEq, Repr

namespace Key

/-- Texts compare by code points, as their bytes do; a predicate never mixes the two kinds. -/
def order : Key → Key → Ordering
  | number i, number j => compare i j
  | text s, text t => compare s t
  | number _, text _ => .lt
  | text _, number _ => .gt

end Key

/-- How the cells of a column are turned into keys. -/
inductive Basis where
  /-- Integers within eight bytes. -/
  | integer
  /-- Doubles in their total order. -/
  | real (source : DataType)
  | text
  | truth
  /-- Counts of days or of a time unit. -/
  | count
deriving DecidableEq, Repr

namespace Basis

def realKey (bits : Nat) : Key := .number (Binary.double.orderKey bits)

/-- The key of a cell; none for a null and for a cell that does not fit. -/
def key? (b : Basis) (c : Cell) : Option Key :=
  match b, c with
  | .integer, .int i => if int64.holds i then some (.number i) else none
  | .real (.float .double), .float bits => some (realKey bits)
  | .real (.float p), .float bits => some (realKey (Binary.double.convert p.format bits))
  | .real (.decimal _ _ s), .int i => some (realKey (Conversion.decimalFloat Binary.double s i))
  | .real _, .int i => some (realKey (Binary.double.ofInt i))
  | .text, .text s => some (.text s)
  | .truth, .bool b => some (.number (if b then 1 else 0))
  | .count, .int i => some (.number i)
  | _, _ => none

end Basis

def mismatch (type : DataType) (shown : String) : QueryError := .typeMismatch type.name shown

/-- A text constant as a value of a type of dates or times. -/
def readTemporal (type : DataType) (s : String) : Except QueryError Key :=
  match Cast.of? .utf8 type with
  | some convert =>
    match convert (.text s) with
    | some (.int i) => .ok (.number i)
    | _ => .error (mismatch type ("'" ++ s ++ "'"))
  | none => .error (Cast.refusal .utf8 type)

/-- The basis of doubles for a type, if its values can be turned into them. -/
def realBasis (type : DataType) : Except QueryError Basis :=
  match Cast.of? type (.float .double) with
  | some _ => .ok (.real type)
  | none => .error (Cast.refusal type (.float .double))

/-- The common ground of a column's type and a constant, and the constant's key on it. -/
def coerce (type : DataType) (value : Literal) : Except QueryError (Basis × Key) :=
  match value with
  | .integer i =>
    if type.isInteger then .ok (.integer, .number i)
    else if type.isNumeric then
      (realBasis type).map fun basis => (basis, Basis.realKey (Binary.double.ofInt i))
    else .error (mismatch type value.shown)
  | .real bits =>
    if type.isNumeric then (realBasis type).map fun basis => (basis, Basis.realKey bits)
    else .error (mismatch type value.shown)
  | .text s =>
    if type = .text .small ∨ type = .text .large then .ok (.text, .text s)
    else if type.isTemporal then (readTemporal type s).map fun k => (.count, k)
    else .error (mismatch type value.shown)
  | .truth b =>
    if type = .boolean then .ok (.truth, .number (if b then 1 else 0))
    else .error (mismatch type value.shown)

def columnIndex (schema : Schema) (name : String) : Except QueryError Nat :=
  match schema.indexOf? name with
  | some i => .ok i
  | none => .error (.columnNotFound name)

structure Test where
  position : Nat
  basis : Basis
  op : Comparison
  key : Key
deriving DecidableEq, Repr

/-- For each row of a table whether it passes; null where that is not known. -/
abbrev Mask := List (Option Bool)

/-- Where both of two masks are true; what is null in either is null. -/
def Mask.both (m n : Mask) : Mask := List.zipWith (fun x y => x.bind fun a => y.map (a && ·)) m n

def Batch.keep (b : Batch) (m : Mask) : Batch :=
  ⟨b.schema, ((b.rows.zip m).filter (·.2 = some true)).map Prod.fst⟩

def Test.mask (t : Test) (b : Batch) : Mask :=
  (b.column t.position).map fun c => (t.basis.key? c).map fun k => t.op.holds (k.order t.key)

namespace Predicate

def bind (schema : Schema) (p : Predicate) : Except QueryError Test := do
  let i ← columnIndex schema p.column
  let (basis, key) ← coerce ((schema[i]?.map Field.type).getD .null) p.value
  .ok ⟨i, basis, p.op, key⟩

def evaluate (p : Predicate) (b : Batch) : Except QueryError Mask := do
  let t ← p.bind b.schema
  .ok (t.mask b)

end Predicate

namespace SelectQuery

/-- The mask after one more predicate; the first has none before it. -/
def joined (b : Batch) (mask : Option Mask) (p : Predicate) : Except QueryError (Option Mask) := do
  let current ← p.evaluate b
  match mask with
  | some previous => .ok (some (previous.both current))
  | none => .ok (some current)

/-- The mask of the `WHERE` clause if there is one, or the first error in its order. -/
def mask? (q : SelectQuery) (b : Batch) : Except QueryError (Option Mask) :=
  q.selection.foldlM (joined b) none

def positions (q : SelectQuery) (schema : Schema) : Except QueryError (List Nat) :=
  match q.projection with
  | .all => .ok (List.range schema.length)
  | .columns names => names.mapM (columnIndex schema)

def select (q : SelectQuery) (b : Batch) : Except QueryError Batch := do
  match ← q.mask? b with
  | some m => .ok (b.keep m)
  | none => .ok b

def cut (q : SelectQuery) (b : Batch) : Batch :=
  match q.limit with
  | some n => b.take n
  | none => b

/-- The result over a table: rows are filtered, then projected, then cut. -/
def execute (q : SelectQuery) (b : Batch) : Except QueryError Batch := do
  let filtered ← q.select b
  let ps ← q.positions b.schema
  .ok (q.cut (filtered.project ps))

def outputSchema (q : SelectQuery) (schema : Schema) : Except QueryError Schema := do
  let ps ← q.positions schema
  .ok (ps.filterMap (schema[·]?))

end SelectQuery

end ShardQuery
