import ShardQuery.Data.Batch
import ShardQuery.Error

namespace ShardQuery

/-- Bytes on their way: those of one batch, or of none. -/
inductive Parcel where
  | batch (b : Batch)
  | other
deriving DecidableEq, Repr

namespace Parcel

def pack (b : Batch) : Parcel := batch b

def size : Parcel → Nat
  | batch b => b.size
  | other => 0

def unpack : Parcel → Except QueryError Batch
  | batch b => .ok b
  | other => .error (.serialization "no batch in the bytes received")

@[simp]
theorem unpack_pack (b : Batch) : (pack b).unpack = .ok b := rfl

end Parcel

end ShardQuery
