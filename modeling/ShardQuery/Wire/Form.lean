import ShardQuery.Table.Plan
import ShardQuery.Membership
import ShardQuery.Json.Decode

namespace ShardQuery

namespace WorkerFiles

def fieldNames : List String := ["worker", "files"]

def toJson (w : WorkerFiles) : Json :=
  .object [("worker", .text w.worker), ("files", .texts w.files)]

def ofJson? (j : Json) : Option WorkerFiles := do
  let fs ← j.fields? fieldNames
  some ⟨← fs.required 0 Json.text?, ← fs.required 1 (Json.list? Json.text?)⟩

end WorkerFiles

namespace TableReference

def fieldNames : List String :=
  ["name", "kind", "locations", "column_names", "column_types", "row_group_ids", "uri_values",
   "worker_mapping"]

def groupsToJson (groups : List (List Nat)) : Json :=
  .list (groups.map fun ids => .list (ids.map Json.ofNat))

def toJson (t : TableReference) : Json :=
  .object [
    ("name", .text t.name),
    ("kind", .text t.kind.name),
    ("locations", .texts t.locations),
    ("column_names", .texts t.columnNames),
    ("column_types", .texts (t.columnTypes.map ColumnType.name)),
    ("row_group_ids", .ofOption groupsToJson t.rowGroups),
    ("uri_values", .ofOption Json.texts t.uris),
    ("worker_mapping", .ofOption (fun ws => .list (ws.map WorkerFiles.toJson)) t.mapping)]

def kindOfJson? (j : Json) : Option SourceKind := j.looseChoice?.bind SourceKind.ofName?

def typeOfJson? (j : Json) : Option ColumnType := j.looseChoice?.bind ColumnType.ofName?

def ofJson? (j : Json) : Option TableReference := do
  let fs ← j.fields? fieldNames
  some {
    name := ← fs.required 0 Json.text?
    kind := ← fs.required 1 kindOfJson?
    locations := ← fs.required 2 (Json.list? Json.text?)
    columnNames := ← fs.required 3 (Json.list? Json.text?)
    columnTypes := ← fs.required 4 (Json.list? typeOfJson?)
    rowGroups := ← fs.optional 5 (Json.list? (Json.list? Json.word?))
    uris := ← fs.optional 6 (Json.list? Json.text?)
    mapping := ← fs.optional 7 (Json.list? WorkerFiles.ofJson?) }

end TableReference

namespace Range

def toJson (r : Range) : Json := .object [("start", .ofNat r.start), ("len", .ofNat r.len)]

def ofJson? (j : Json) : Option Range := do
  let fs ← j.fields? ["start", "len"]
  some ⟨← fs.required 0 Json.word?, ← fs.required 1 Json.word?⟩

end Range

namespace Slice

def toJson (s : Slice) : Json :=
  .object [("table", s.table.toJson), ("offset", s.offset.toJson),
    ("worker", .ofOption .text s.worker)]

def ofJson? (j : Json) : Option Slice := do
  let fs ← j.fields? ["table", "offset", "worker"]
  some ⟨← fs.required 0 TableReference.ofJson?, ← fs.required 1 Range.ofJson?,
    ← fs.optional 2 Json.text?⟩

end Slice

namespace Address

def toJson (a : Address) : Json :=
  .object [("workerId", .text a.workerId), ("ip", .text a.ip), ("port", .ofNat a.port)]

def ofJson? (j : Json) : Option Address := do
  let fs ← j.fields? ["workerId", "ip", "port"]
  some ⟨← fs.required 0 Json.text?, ← fs.required 1 Json.text?,
    ← fs.required 2 (Json.natBelow? UInt16.size)⟩

end Address

namespace Membership

def toJson (m : Membership) : Json := .list (m.participants.map Address.toJson)

def ofJson? (j : Json) : Option Membership := (j.list? Address.ofJson?).map Membership.mk

end Membership

end ShardQuery
