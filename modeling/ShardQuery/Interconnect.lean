import ShardQuery.Cache
import ShardQuery.Wire.Parcel

namespace ShardQuery

/-- The caches that are bound, by the form of their address. -/
structure Interconnect where
  /-- The name of the transport; it is only passed on. -/
  protocol : String
  endpoints : FiniteMap String PartitionCache
deriving DecidableEq, Repr

namespace Interconnect

def empty (protocol : String) : Interconnect := ⟨protocol, .empty⟩

def isBound (net : Interconnect) (a : Address) : Bool := net.endpoints.contains a.endpoint

def boundCount (net : Interconnect) : Nat := net.endpoints.size

def cacheAt (net : Interconnect) (a : Address) : Except QueryError PartitionCache :=
  match net.endpoints.find? a.endpoint with
  | some c => .ok c
  | none => .error (.transport ("No cache endpoint bound at " ++ a.endpoint))

def withCache (net : Interconnect) (a : Address) (c : PartitionCache) : Interconnect :=
  { net with endpoints := net.endpoints.insert a.endpoint c }

def bind (net : Interconnect) (a : Address) (owner : ParticipantId) :
    Except QueryError Interconnect :=
  if net.isBound a then
    .error (.transport ("Cache endpoint " ++ a.endpoint ++ " is already bound"))
  else .ok (net.withCache a (.empty owner))

/-- Removes the cache at an address with all that it holds. -/
def unbind (net : Interconnect) (a : Address) : Interconnect :=
  { net with endpoints := net.endpoints.erase a.endpoint }

/-- Puts a partition into the cache at an address, which must be that of its owner. -/
def put (net : Interconnect) (a : Address) (owner : ParticipantId) (token : CorrelationToken)
    (id : MessageId) (batch : Batch) : Except QueryError Interconnect := do
  let parcel := Parcel.pack batch
  let cache ← net.cacheAt a
  if cache.owner = owner then
    let batch ← parcel.unpack
    let cache ← cache.put token id batch
    .ok (net.withCache a cache)
  else
    .error (.transport ("Partition " ++ id.text ++ " addressed to " ++ owner.shown ++
      " was delivered to " ++ cache.owner.shown))

def pull (net : Interconnect) (a : Address) (id : MessageId) :
    Except QueryError (CachedPartition × Interconnect) := do
  let cache ← net.cacheAt a
  let (partition, cache) ← cache.pull id
  let batch ← (Parcel.pack partition.batch).unpack
  .ok ({ partition with batch }, net.withCache a cache)

/-- Gives a message id up at an address; whether that evicted its partition. -/
def discard (net : Interconnect) (a : Address) (id : MessageId) :
    Except QueryError (Bool × Interconnect) := do
  let cache ← net.cacheAt a
  let (evicted, cache) := cache.discard id
  .ok (evicted, net.withCache a cache)

theorem find?_bind {net net' : Interconnect} {a : Address} {owner : ParticipantId}
    (h : net.bind a owner = .ok net') (e : String) :
    net'.endpoints.find? e =
      if e = a.endpoint then some (.empty owner) else net.endpoints.find? e := by
  unfold Interconnect.bind at h
  split at h
  · cases h
  · cases h
    exact FiniteMap.find?_insert ..

@[simp, grind =]
theorem find?_unbind (net : Interconnect) (a : Address) (e : String) :
    (net.unbind a).endpoints.find? e =
      if e = a.endpoint then none else net.endpoints.find? e :=
  FiniteMap.find?_erase ..

@[simp, grind =]
theorem find?_withCache (net : Interconnect) (a : Address) (c : PartitionCache) (e : String) :
    (net.withCache a c).endpoints.find? e =
      if e = a.endpoint then some c else net.endpoints.find? e :=
  FiniteMap.find?_insert ..

end Interconnect

end ShardQuery
