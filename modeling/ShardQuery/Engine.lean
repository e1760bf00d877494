import ShardQuery.Interconnect
import ShardQuery.Source.Load
import ShardQuery.Query.Explain

namespace ShardQuery

structure Conduct where
  /-- The time that it takes to deliver a partial result. -/
  delay : Nat := 0
  /-- It reports partial results as delivered that it never sent. -/
  losesPartials : Bool := false
  /-- It delivers each partial result twice. -/
  sendsTwice : Bool := false
  /-- The shares of tables sent to it are lost. -/
  losesShares : Bool := false
  rejectsTables : Bool := false
  /-- It refuses tables from files. -/
  rejectsSources : Bool := false
  /-- It cannot start an engine. -/
  rejectsContext : Bool := false
  /-- Its process ends while it starts an engine. -/
  diesOnContext : Bool := false
  /-- Its process ends while it drops a table. -/
  diesOnDrop : Bool := false
deriving DecidableEq, Repr

def Conduct.sound : Conduct := {}

structure Engine where
  self : ParticipantId
  members : Membership
  conduct : Conduct
  tables : FiniteMap String Batch
deriving DecidableEq, Repr

namespace Engine

/-- Starts an engine without tables and binds the participant's cache. -/
def start (self : ParticipantId) (members : Membership) (conduct : Conduct)
    (net : Interconnect) : Except QueryError (Engine × Interconnect) := do
  if conduct.rejectsContext then
    .error (.config ("no context for " ++ self.shown))
  let address ← members.addressOf self
  let net ← net.bind address self
  .ok (⟨self, members, conduct, .empty⟩, net)

def table (e : Engine) (name : String) : Except QueryError Batch :=
  match e.tables.find? name with
  | some b => .ok b
  | none => .error (.tableNotFound name)

def holds (e : Engine) (name : String) : Bool := e.tables.contains name

def withTable (e : Engine) (name : String) (batch : Batch) : Engine :=
  { e with tables := e.tables.insert name batch }

def create (e : Engine) (name : String) (batch : Batch) : Except QueryError Engine :=
  if e.conduct.rejectsTables then .error (.execution "out of memory")
  else .ok (e.withTable name batch)

def createFromSource (e : Engine) (files : FileStore) (slice : Slice) :
    Except QueryError Engine := do
  if e.conduct.rejectsSources then .error (.io "disk unavailable")
  let batch ← slice.load files
  .ok (e.withTable slice.table.name batch)

def drop (e : Engine) (name : String) : Except QueryError Engine :=
  if e.holds name then .ok { e with tables := e.tables.erase name }
  else .error (.tableNotFound name)

def tableNames (e : Engine) : List String := e.tables.keys.mergeSort (· ≤ ·)

def describe (e : Engine) (name : String) : Except QueryError (List (String × DataType)) :=
  (e.table name).map fun b => b.schema.map fun f => (f.name, f.type)

def rowCount (e : Engine) (name : String) : Except QueryError Nat := (e.table name).map Batch.size

def explain (e : Engine) (sql : String) (detailed : Bool) : Except QueryError String := do
  let q ← parseQuery sql
  let b ← e.table q.table
  q.explain b detailed

structure Prepared where
  query : SelectQuery
  table : Batch
deriving DecidableEq, Repr

def Prepared.run (p : Prepared) : Except QueryError Batch := p.query.execute p.table

/-- Prepares a query: it must read, and its table and projected columns must exist. -/
def prepare (e : Engine) (sql : String) : Except QueryError Prepared := do
  let q ← parseQuery sql
  let b ← e.table q.table
  let _ ← q.outputSchema b.schema
  .ok ⟨q, b⟩

def send (e : Engine) (net : Interconnect) (target : ParticipantId) (token : CorrelationToken)
    (id : MessageId) (batch : Batch) : Except QueryError Interconnect := do
  let address ← e.members.addressOf target
  net.put address target token id batch

def pull (e : Engine) (net : Interconnect) (id : MessageId) :
    Except QueryError (Batch × Interconnect) := do
  let address ← e.members.addressOf e.self
  let (partition, net) ← net.pull address id
  .ok (partition.batch, net)

def discard (e : Engine) (net : Interconnect) (id : MessageId) :
    Except QueryError Interconnect := do
  let address ← e.members.addressOf e.self
  let (_, net) ← net.discard address id
  .ok net

@[simp, grind =]
theorem find?_withTable (e : Engine) (name other : String) (b : Batch) :
    (e.withTable name b).tables.find? other =
      if other = name then some b else e.tables.find? other :=
  FiniteMap.find?_insert ..

@[simp, grind =]
theorem holds_withTable (e : Engine) (name other : String) (b : Batch) :
    (e.withTable name b).holds other = (decide (other = name) || e.holds other) :=
  FiniteMap.contains_insert ..

theorem find?_drop {e e' : Engine} {name : String} (h : e.drop name = .ok e') (other : String) :
    e'.tables.find? other = if other = name then none else e.tables.find? other := by
  unfold drop at h
  split at h
  · cases h
    exact FiniteMap.find?_erase ..
  · cases h

end Engine

end ShardQuery
