import ShardQuery.Cluster.Worker
import ShardQuery.Cluster.Barrier
import ShardQuery.Cluster.Settings

namespace ShardQuery

/-- A partition that a worker is to pick up. -/
structure Share where
  token : CorrelationToken
  id : MessageId
  batch : Batch
deriving DecidableEq, Repr

/-- What a participant is to do for an operation. -/
inductive Task where
  /-- The coordinator's own part of a query, with its result. -/
  | own (result : Except QueryError Batch)
  /-- A request to a worker, after a share of its own was sent to it if there is one. -/
  | ask (share : Option Share) (request : Request)
deriving Repr

/-- A participant's part of an operation. -/
structure Call where
  participant : ParticipantId
  task : Task
deriving Repr

/-- What a part, or a whole operation, comes back with. -/
inductive Answer where
  | done
  | rows (batch : Batch)
deriving DecidableEq, Repr

def Answer.batch? : Answer → Option Batch
  | done => none
  | rows b => some b

inductive Operation where
  /-- To split the rows of a batch among the participants, as a table. -/
  | create (name : String) (batch : Batch)
  /-- To split the files of a table among the participants. -/
  | createFromSource (table : TableReference)
  | drop (name : String)
  | query (sql : String)
deriving DecidableEq, Repr

/-- What is left to do once all calls have ended. -/
inductive Goal where
  | launched
  | created (name : String)
  /-- The coordinator's own load ended with a result. -/
  | loaded (name : String) (result : Except QueryError Unit)
  | dropped (name : String)
  /-- Workers were told to send their results under these ids. -/
  | queried (issued : List (ParticipantId × MessageId))
deriving Repr

/-- A query that can run on the coordinator, while tokens are taken for the workers. -/
structure Draft where
  sql : String
  prepared : Engine.Prepared
  /-- The tokens taken so far, in the order of the workers. -/
  tokens : List CorrelationToken
deriving DecidableEq, Repr

inductive Begun where
  | answered (answer : Except ClusterError Answer)
  | waiting (calls : List Call) (goal : Goal)
deriving Repr

/-- An operation whose calls have ended: its answer, and the calls that undo what they did. -/
structure Concluded where
  undo : List Call
  answer : Except ClusterError Answer
deriving Repr

structure Cluster where
  settings : Settings
  members : Membership
  files : FileStore
  phase : Phase
  tokens : TokenIssuer
  net : Interconnect
  own : Engine
  /-- The workers in the order of their ids. -/
  workers : List Worker
deriving Repr

namespace Request

/-- Refuses a reply that is not the success of a request. -/
def check (p : ParticipantId) (request : Request) (reply : Reply) : Except ClusterError Unit :=
  if reply = request.success then .ok ()
  else
    match request, reply with
    | .runQuery token id _, .queryRan token' id' =>
      .error (.protocol (p.shown ++ " answered " ++ id'.text ++ " (" ++
        Decimal.natText token'.number ++ ") to a query sent as " ++ id.text ++ " (" ++
        Decimal.natText token.number ++ ")"))
    | _, _ =>
      .error (.protocol (p.shown ++ " answered " ++ reply.operation ++ " where " ++
        request.success.operation ++ " was expected"))

end Request

namespace Cluster

def workerIds (c : Cluster) : List ParticipantId :=
  (List.range c.workers.length).map ParticipantId.worker

def worker? (c : Cluster) (p : ParticipantId) : Option Worker :=
  if p.isCoordinator then none else c.workers[p.number - 1]?

def withWorker (c : Cluster) (p : ParticipantId) (w : Worker) : Cluster :=
  { c with workers := c.workers.set (p.number - 1) w }

/-- The engines of all participants that have one, by their ids. -/
def engines (c : Cluster) : List Engine := c.own :: c.workers.filterMap Worker.engine

def create (settings : Settings) (workers : Nat) (conducts : Conducts) (files : FileStore) :
    Except QueryError Cluster := do
  let members ← Membership.build (workers + 1) settings.bindIp settings.basePort
  let (own, net) ← Engine.start .coordinator members (conducts.of .coordinator)
    (.empty settings.protocol)
  .ok ⟨settings, members, files, .initializing, .fresh, net, own,
    List.replicate workers (.fresh conducts)⟩

def launch (c : Cluster) : List Call :=
  c.workerIds.map fun p => ⟨p, .ask none (.createContext p c.members)⟩

def ready (c : Cluster) (operation : String) : Except ClusterError Unit :=
  if c.phase = .ready then .ok () else .error (.notReady operation c.phase)

/-- A call to each worker, made from one value each. -/
def callEach (c : Cluster) (f : ParticipantId → α → Call) (values : List α) : List Call :=
  List.zipWith f c.workerIds values

def issue (c : Cluster) : List CorrelationToken × Cluster :=
  let (tokens, issuer) := c.tokens.take c.workers.length
  (tokens, { c with tokens := issuer })

def answering (c : Cluster) (r : Except ClusterError (Cluster × Begun)) : Cluster × Begun :=
  match r with
  | .ok next => next
  | .error e => (c, .answered (.error e))

def lift (r : Except QueryError α) : Except ClusterError α := r.mapError .engine

/-- Splits rows: the coordinator keeps the first share and each worker is sent one. -/
def beginCreate (c : Cluster) (name : String) (batch : Batch) : Cluster × Begun :=
  c.answering do
    c.ready "create table"
    let parts ← lift (batch.split c.members.size)
    let (tokens, c) := c.issue
    let shares := List.zipWith (fun t b => Share.mk t t.messageId b) tokens parts.tail
    let calls := c.callEach
      (fun p (s : Share) => ⟨p, .ask (some s) (.createTable name s.id)⟩) shares
    match c.own.create name (parts.headD (.empty batch.schema)) with
    | .ok own => .ok ({ c with own }, .waiting calls (.created name))
    | .error e => .ok (c, .answered (.error (.engine e)))

/-- Splits files: the coordinator loads the first slice and each worker one. -/
def beginSource (c : Cluster) (table : TableReference) : Cluster × Begun :=
  c.answering do
    c.ready "create table"
    lift table.validate
    let table ← lift (table.resolve c.files)
    let slices ← lift (Planner.planTable ⟨c.members.size⟩ table)
    match slices with
    | [] => .error (.protocol "Partition plan produced no slices")
    | first :: rest =>
      let calls := c.callEach (fun p s => ⟨p, .ask none (.createFromSource s)⟩) rest
      match c.own.createFromSource c.files first with
      | .ok own => .ok ({ c with own }, .waiting calls (.loaded table.name (.ok ())))
      | .error e => .ok (c, .waiting calls (.loaded table.name (.error e)))

def beginDrop (c : Cluster) (name : String) : Cluster × Begun :=
  c.answering do
    c.ready "drop table"
    if c.own.holds name then
      .ok (c, .waiting (c.workerIds.map fun p => ⟨p, .ask none (.dropTable name)⟩)
        (.dropped name))
    else .error (.engine (.tableNotFound name))

/--
Prepares a query on the coordinator, so that one that cannot run is not sent out. The coordinator's
own part takes a token as well.
-/
def draft (c : Cluster) (sql : String) : Cluster × Except ClusterError Draft :=
  match c.ready "sql" with
  | .error e => (c, .error e)
  | .ok () =>
    ({ c with tokens := c.tokens.next.2 }, (lift (c.own.prepare sql)).map (⟨sql, ·, []⟩))

/-- Asks all workers to run a query, each under its token. -/
def dispatch (c : Cluster) (d : Draft) : List Call × Goal :=
  let asks := c.callEach
    (fun p (t : CorrelationToken) => ⟨p, .ask none (.runQuery t t.messageId d.sql)⟩) d.tokens
  (⟨.coordinator, .own d.prepared.run⟩ :: asks,
    .queried (List.zip c.workerIds (d.tokens.map CorrelationToken.messageId)))

def beginQuery (c : Cluster) (sql : String) : Cluster × Begun :=
  match c.draft sql with
  | (c, .error e) => (c, .answered (.error e))
  | (c, .ok d) =>
    let (tokens, c) := c.issue
    let (calls, goal) := c.dispatch { d with tokens }
    (c, .waiting calls goal)

def start (c : Cluster) : Operation → Cluster × Begun
  | .create name batch => c.beginCreate name batch
  | .createFromSource table => c.beginSource table
  | .drop name => c.beginDrop name
  | .query sql => c.beginQuery sql

/-- Sends a worker its share, unless shares to it are lost. -/
def sendShare (c : Cluster) (p : ParticipantId) : Option Share → Except QueryError Cluster
  | none => .ok c
  | some s => do
    let losesShares := match c.worker? p with
      | some w => (w.conducts.of p).losesShares
      | none => false
    if losesShares then .ok c
    else
      let net ← c.own.send c.net p s.token s.id s.batch
      .ok { c with net }

/-- What a worker's success comes to: the result of a query is pulled, all else is done. -/
def collect (c : Cluster) : Request → Cluster × Except ClusterError Answer
  | .runQuery _ id _ =>
    match c.own.pull c.net id with
    | .ok (batch, net) => ({ c with net }, .ok (.rows batch))
    | .error e => (c, .error (.engine e))
  | _ => (c, .ok .done)

/-- The cluster without a table at the coordinator, and the calls that drop it elsewhere. -/
def rollBack (c : Cluster) (name : String) (created : List ParticipantId) :
    Cluster × List Call :=
  let own := match c.own.drop name with
    | .ok own => own
    | .error _ => c.own
  ({ c with own },
    (c.workerIds.filter created.contains).map fun p => ⟨p, .ask none (.dropTable name)⟩)

/-- Gives up the ids under which nothing came in time. -/
def discardLate (c : Cluster) (issued : List (ParticipantId × MessageId))
    (failures : List Failure) : Cluster :=
  failures.foldl (fun c f =>
    match f.kind, issued.lookup f.participant with
    | .timedOut _, some id =>
      match c.own.discard c.net id with
      | .ok net => { c with net }
      | .error _ => c
    | _, _ => c) c

def noPartials : String := "Query produced no partial results"

/-- The partial results in one batch, under the columns of the first. -/
def combine (partials : List (ParticipantId × Answer)) : Except ClusterError Answer :=
  match partials.filterMap (·.2.batch?) with
  | [] => .error (.protocol noPartials)
  | b :: bs =>
    match Batch.join? b.schema (b :: bs) with
    | some whole => .ok (.rows whole)
    | none => .error (.engine .invalidBatch)

theorem batches_rows (part : Nat → Batch) (ks : List Nat) :
    (ks.map fun k => ((⟨k⟩ : ParticipantId), Answer.rows (part k))).filterMap (·.2.batch?) =
      ks.map part := by
  rw [List.filterMap_map]
  exact congrFun (List.filterMap_eq_map' (f := part)) ks

/--
Whether one of the partial results has too few columns for the first, and no column before that is
of another type. There is no error for this: whoever asked the query never hears of it again.
-/
def isTorn (partials : List (ParticipantId × Answer)) : Bool :=
  match partials.filterMap (·.2.batch?) with
  | [] => false
  | b :: bs => (Batch.misfit? b.schema (b :: bs)).any fun i =>
      (b :: bs).any fun part => part.schema.length ≤ i

/-- The second half of an operation. -/
def conclude (c : Cluster) (o : Outcome Answer) : Goal → Cluster × Concluded
  | .launched =>
    match o.result "init" with
    | .ok _ => ({ c with phase := .ready }, ⟨[], .ok .done⟩)
    | .error e => ({ c with phase := .stopped }, ⟨[], .error e⟩)
  | .created name =>
    let answer := (o.result "create table").map fun _ => .done
    if o.isComplete then (c, ⟨[], answer⟩)
    else
      let (c, undo) := c.rollBack name o.completedIds
      (c, ⟨undo, answer⟩)
  | .loaded name result =>
    let answer := do
      lift result
      (o.result "create table").map fun _ => .done
    if o.isComplete && result.toOption.isSome then (c, ⟨[], answer⟩)
    else
      let (c, undo) := c.rollBack name o.completedIds
      (c, ⟨undo, answer⟩)
  | .dropped name =>
    match c.own.drop name with
    | .ok own => ({ c with own }, ⟨[], (o.result "drop table").map fun _ => .done⟩)
    | .error e => (c, ⟨[], .error (.engine e)⟩)
  | .queried issued =>
    (c.discardLate issued o.failures, ⟨[], o.result "sql" >>= combine⟩)

/-- Whether the second half of an operation breaks off. -/
def breaksOff (o : Outcome Answer) : Goal → Bool
  | .queried _ => o.isComplete && isTorn o.completed
  | _ => false

/-- The cluster with all workers ended. It stays stopped. -/
def stop (c : Cluster) : Cluster :=
  if c.phase = .stopped then c
  else { c with phase := .stopped, workers := c.workers.map Worker.ended }

def tableNames (c : Cluster) : Except ClusterError (List String) := do
  c.ready "list tables"
  .ok c.own.tableNames

def describe (c : Cluster) (name : String) : Except ClusterError (List (String × DataType)) := do
  c.ready "describe table"
  lift (c.own.describe name)

def explain (c : Cluster) (sql : String) (detailed : Bool) : Except ClusterError String := do
  c.ready "explain"
  lift (c.own.explain sql detailed)

theorem stop_stop (c : Cluster) : c.stop.stop = c.stop := by
  grind [stop]

end Cluster

end ShardQuery
