import ShardQuery.Shell.Grid
import ShardQuery.Cluster.Failure
import ShardQuery.Table.Plan

namespace ShardQuery

namespace Grid

def ofColumns (columns : List (String × DataType)) : Grid :=
  ⟨["Column", "Type"], columns.map fun (name, type) => [name, type.name]⟩

def ofSlices (slices : List Slice) : Grid :=
  ⟨["Participant", "Offset", "Length", "Files"],
    slices.zipIdx.map fun (s, i) =>
      [(ParticipantId.mk i).shown, Decimal.natText s.offset.start, Decimal.natText s.offset.len,
        if s.table.locations = [] then "-" else Text.join '\n' s.table.locations]⟩

end Grid

structure Status where
  /-- The name by which one cluster is told from another. -/
  name : String
  phase : Phase
  protocol : String
  workers : Nat
  tokens : Nat
  participants : List Address
deriving DecidableEq, Repr

/-- The state of a cluster and the addresses of its participants. -/
def Status.grid (s : Status) : Grid :=
  ⟨["Metric", "Value"],
    [["Cluster", s.name], ["State", s.phase.shown], ["Protocol", s.protocol],
      ["Workers", Decimal.natText s.workers], ["Tokens issued", Decimal.natText s.tokens]] ++
      s.participants.zipIdx.map fun (a, i) => [(ParticipantId.mk i).shown, a.endpoint]⟩

end ShardQuery
