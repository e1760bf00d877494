import ShardQuery.Interconnect

namespace ShardQuery

inductive Errand where
  | put (owner : ParticipantId) (token : CorrelationToken) (id : MessageId) (batch : Batch)
  | pull (id : MessageId)
  | discard (id : MessageId)
deriving DecidableEq, Repr

/-- What a participant gets from a cache. -/
inductive Receipt where
  | stored
  | partition (batch : Batch)
  | discarded (evicted : Bool)
deriving DecidableEq, Repr

def PartitionCache.handle (c : PartitionCache) : Errand → Except QueryError Receipt × PartitionCache
  | .put owner token id batch =>
    if c.owner = owner then
      match (Parcel.pack batch).unpack >>= c.put token id with
      | .ok d => (.ok .stored, d)
      | .error x => (.error x, c)
    else
      (.error (.transport ("Partition " ++ id.text ++ " addressed to " ++ owner.shown ++
        " was delivered to " ++ c.owner.shown)), c)
  | .pull id =>
    match c.pull id with
    | .ok (p, d) => ((Parcel.pack p.batch).unpack.map .partition, d)
    | .error x => (.error x, c)
  | .discard id => (.ok (.discarded (c.discard id).1), (c.discard id).2)

/-- A task with the cache that it owns. -/
structure Endpoint where
  address : String
  cache : PartitionCache
deriving DecidableEq, Repr

structure Asked where
  endpoint : Nat
  address : Address
  errand : Errand
deriving DecidableEq, Repr

/--
The tasks of an interconnect, numbered in the order in which they were bound. An address is registered
until the guard that binding gave out is dropped, and the task ends some time after that. A request
finds its task when it is made and is served later, if the task still runs then.
-/
structure Endpoints where
  /-- The tasks that requests find, by the form of their address. -/
  registry : FiniteMap String Nat
  /-- The guards that are not dropped, by the numbers of their tasks, with their addresses. -/
  guards : FiniteMap Nat String
  /-- The tasks that have not ended. -/
  running : FiniteMap Nat Endpoint
  pending : List Asked
  next : Nat
deriving DecidableEq, Repr

namespace Endpoints

inductive Action where
  | bind (a : Address) (owner : ParticipantId)
  /-- Drops a guard. -/
  | drop (n : Nat)
  /-- A task ends, unless its guard is still held. -/
  | finish (n : Nat)
  | ask (a : Address) (errand : Errand)
  /-- A request reaches its task, in whatever order. -/
  | serve (position : Nat)
deriving DecidableEq, Repr

/-- What an action comes to, as its participants see it. -/
inductive Entry where
  | bound (n : Nat) (a : Address) (owner : ParticipantId)
  | refused (a : Address) (x : QueryError)
  | unbound (n : Nat) (address : String)
  | asked (n : Nat) (a : Address) (errand : Errand)
  /-- A request ended, served by a task or by none. -/
  | answered (server : Option Nat) (a : Address) (errand : Errand)
      (result : Except QueryError Receipt)
deriving Repr

def empty : Endpoints := ⟨.empty, .empty, .empty, [], 0⟩

def unboundAt (a : Address) : QueryError :=
  .transport ("No cache endpoint bound at " ++ a.endpoint)

def goneAt (a : Address) : QueryError :=
  .transport ("Cache endpoint " ++ a.endpoint ++ " went away before replying")

def bind (s : Endpoints) (a : Address) (owner : ParticipantId) : Endpoints × List Entry :=
  match s.registry.find? a.endpoint with
  | some _ =>
    (s, [.refused a (.transport ("Cache endpoint " ++ a.endpoint ++ " is already bound"))])
  | none =>
    ({ s with
        registry := s.registry.insert a.endpoint s.next
        guards := s.guards.insert s.next a.endpoint
        running := s.running.insert s.next ⟨a.endpoint, .empty owner⟩
        next := s.next + 1 },
      [.bound s.next a owner])

def drop (s : Endpoints) (n : Nat) : Endpoints × List Entry :=
  match s.guards.find? n with
  | some e =>
    ({ s with registry := s.registry.erase e, guards := s.guards.erase n }, [.unbound n e])
  | none => (s, [])

def finish (s : Endpoints) (n : Nat) : Endpoints :=
  if s.guards.contains n then s else { s with running := s.running.erase n }

def ask (s : Endpoints) (a : Address) (errand : Errand) : Endpoints × List Entry :=
  match s.registry.find? a.endpoint with
  | some n => ({ s with pending := s.pending ++ [⟨n, a, errand⟩] }, [.asked n a errand])
  | none => (s, [.answered none a errand (.error (unboundAt a))])

def answer (s : Endpoints) (q : Asked) : Endpoints × List Entry :=
  match s.running.find? q.endpoint with
  | some t =>
    let served := t.cache.handle q.errand
    ({ s with running := s.running.insert q.endpoint ⟨t.address, served.2⟩ },
      [.answered (some q.endpoint) q.address q.errand served.1])
  | none => (s, [.answered none q.address q.errand (.error (goneAt q.address))])

def step (s : Endpoints) : Action → Endpoints × List Entry
  | .bind a owner => s.bind a owner
  | .drop n => s.drop n
  | .finish n => (s.finish n, [])
  | .ask a errand => s.ask a errand
  | .serve i =>
    match s.pending[i]? with
    | some q => { s with pending := s.pending.eraseIdx i }.answer q
    | none => (s, [])

def run : Endpoints → List Action → Endpoints × List Entry
  | s, [] => (s, [])
  | s, action :: actions =>
    let rest := run (s.step action).1 actions
    (rest.1, (s.step action).2 ++ rest.2)

def cacheAt? (s : Endpoints) (e : String) : Option PartitionCache :=
  (s.registry.find? e).bind fun n => (s.running.find? n).map Endpoint.cache

def Action.address? (s : Endpoints) : Action → Option String
  | .bind a _ => some a.endpoint
  | .drop n => s.guards.find? n
  | .finish _ => none
  | .ask a _ => some a.endpoint
  | .serve i => s.pending[i]?.map (·.address.endpoint)

end Endpoints

/-- A whole request at an address: its end, and the interconnect after it. -/
def Interconnect.request (net : Interconnect) (a : Address) :
    Errand → Except QueryError Receipt × Interconnect
  | .put owner token id batch =>
    match net.put a owner token id batch with
    | .ok net' => (.ok .stored, net')
    | .error x => (.error x, net)
  | .pull id =>
    match net.pull a id with
    | .ok (p, net') => (.ok (.partition p.batch), net')
    | .error x => (.error x, net)
  | .discard id =>
    match net.discard a id with
    | .ok (evicted, net') => (.ok (.discarded evicted), net')
    | .error x => (.error x, net)

end ShardQuery
