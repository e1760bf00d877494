import ShardQuery.Cluster.Live

namespace ShardQuery

namespace Operation

def label : Operation → String
  | create .. => "create table"
  | createFromSource _ => "create table"
  | drop _ => "drop table"
  | query _ => "sql"

def isQuery : Operation → Bool
  | query _ => true
  | _ => false

/-- Begins an operation under the next number; a query takes its tokens later. -/
def begin (op : Operation) (l : Live) : Live :=
  match op with
  | query sql => l.draft sql
  | op => l.start op

end Operation

def Request.pulls : Request → Bool
  | .runQuery .. => true
  | _ => false

/-- The coordinator's part of an operation, if it is done before the calls. -/
def Goal.ownPart : Goal → List (ParticipantId × Answer)
  | .created _ => [(.coordinator, .done)]
  | .loaded _ (.ok _) => [(.coordinator, .done)]
  | _ => []

/-- The part that a call completes with an answer, unless the calls undo the operation. -/
def Running.part (r : Running) (i : Nat) (a : Answer) : List (ParticipantId × Answer) :=
  match r.aim, r.calls[i]? with
  | .conclude _, some c => [(c.call.participant, a)]
  | _, _ => []

/-- Fails unless all members took part in an operation. -/
def Cluster.ensureCovered (c : Cluster) (operation : String) (covered : Nat) :
    Except ClusterError Unit :=
  if covered = c.members.size then .ok ()
  else
    .error (.protocol (operation ++ " reached " ++ Decimal.natText covered ++ " of " ++
      Decimal.natText c.members.size ++ " participants"))

namespace Live

/-- What is done by an operation that was let in with some workers: its checks are behind it. -/
def through (l : Live) (n : Nat) (f : Live → Live) : Live :=
  let c := l.cluster
  let l := f { l with cluster := { c with phase := .ready, workers := c.workers.take n } }
  { l with cluster := { l.cluster with phase := c.phase, workers := c.workers } }

def part (l : Live) (o i : Nat) (a : Answer) : List (Nat × ParticipantId × Answer) :=
  match l.op? o with
  | some r => (r.part i a).map (o, ·)
  | none => []

def ownPart (l : Live) (o : Nat) : List (Nat × ParticipantId × Answer) :=
  match l.op? o with
  | some ⟨_, _, _, .conclude goal⟩ => goal.ownPart.map (o, ·)
  | _ => []

/-- The parts that an event completes, with the numbers of their operations. -/
def completed (l : Live) : Event → List (Nat × ParticipantId × Answer)
  | .own o i =>
    match l.call? o i with
    | some ⟨⟨_, .own (.ok b)⟩, .fresh⟩ => l.part o i (.rows b)
    | _ => []
  | .receive w =>
    match l.links[w]? with
    | some ⟨channel, _, _, (seq, reply) :: _⟩ =>
      if channel.pending.contains seq then
        match l.waiting? channel.worker seq with
        | some (o, i) =>
          match l.call? o i with
          | some ⟨⟨_, .ask _ r⟩, _⟩ =>
            if reply = r.success ∧ r.pulls = false then l.part o i .done else []
          | _ => []
        | none => []
      else []
    | _ => []
  | .pull o i =>
    match l.call? o i with
    | some ⟨⟨_, .ask _ r⟩, .pulling⟩ =>
      match (l.cluster.collect r).2 with
      | .ok a => l.part o i a
      | .error _ => []
    | _ => []
  | _ => []

def kill (l : Live) (w : Nat) : Live :=
  { l with
    cluster := { l.cluster with workers := l.cluster.workers.modify w Worker.ended }
    links := l.links.modify w fun k => { k with inbox := [], job := none } }

end Live

/-- Whether an event is of calls, workers or the cache, and no call is given up. -/
def Event.isWork : Event → Bool
  | .start _ => false
  | .draft _ => false
  | .issue _ => false
  | .expire .. => false
  | .stop => false
  | _ => true

/--
A cluster at work that is being stopped, or may be. Stopping takes steps of its own: the phase is
marked, the workers are taken off the coordinator's list, each is ended, and the coordinator's engine
is given up. An operation is let in under the workers it finds on the list, and goes on with them
whatever happens to the cluster.
-/
structure Halting where
  live : Live
  /-- The workers on the coordinator's list. -/
  listed : List ParticipantId
  /-- Whether the coordinator's engine is there for new operations. -/
  hosted : Bool
  /-- The workers that were taken off the list. -/
  doomed : List ParticipantId
  /-- The operations that were let in, with the workers they found. -/
  entered : List (Operation × List ParticipantId)
  /-- The operations that have begun, by their numbers, with the workers they found. -/
  begun : List (Nat × Operation × List ParticipantId)
  /-- The parts completed so far, by the numbers of their operations. -/
  done : List (Nat × ParticipantId × Answer)
deriving Repr

inductive Halting.Action where
  /-- An operation is let in or refused. -/
  | enter (op : Operation)
  /-- An operation that was let in begins. -/
  | begin (position : Nat)
  /-- A query takes a token for its next worker, or is sent out once all have one. -/
  | issue (op : Nat)
  /-- Calls, workers and the cache go on. -/
  | work (e : Event)
  /-- The phase is marked, unless it was before: then nothing more is to stop. -/
  | mark
  /-- The workers are taken off the list. -/
  | unlist
  | kill (p : ParticipantId)
  /-- The coordinator's engine is given up. -/
  | release
  /-- The files are others from now on. -/
  | store (files : FileStore)
deriving Repr

namespace Halting

def idle (c : Cluster) : Halting := ⟨.idle c, c.workerIds, true, [], [], [], []⟩

/-- The workers that a new operation finds, or why it is refused. -/
def ready (t : Halting) (operation : String) : Except ClusterError (List ParticipantId) := do
  t.live.cluster.ready operation
  if t.hosted && t.listed.length + 1 = t.live.cluster.members.size then .ok t.listed
  else .error (.notReady operation .stopped)

def enter (t : Halting) (op : Operation) : Halting :=
  match t.ready op.label with
  | .ok ps => { t with entered := t.entered ++ [(op, ps)] }
  | .error e =>
    { t with live := { t.live with
        begun := t.live.begun + 1
        answers := t.live.answers ++ [(t.live.begun, .error e)] } }

def begin (t : Halting) (k : Nat) : Halting :=
  match t.entered[k]? with
  | some (op, ps) =>
    let o := t.live.begun
    let live := t.live.through ps.length op.begin
    { t with
      live
      entered := t.entered.eraseIdx k
      begun := t.begun ++ [(o, op, ps)]
      done := t.done ++ live.ownPart o }
  | none => t

def issue (t : Halting) (o : Nat) : Halting :=
  match t.begun.lookup o with
  | some (_, ps) => { t with live := t.live.through ps.length (·.issue o) }
  | none => t

def work (t : Halting) (e : Event) : Halting :=
  if e.isWork then { t with live := t.live.step e, done := t.done ++ t.live.completed e } else t

def isMarked (t : Halting) : Bool := t.live.cluster.phase = .stopped

def mark (t : Halting) : Halting :=
  if t.isMarked then t
  else { t with live := { t.live with cluster := { t.live.cluster with phase := .stopped } } }

def unlist (t : Halting) : Halting :=
  if t.isMarked then { t with listed := [], doomed := t.doomed ++ t.listed } else t

def kill (t : Halting) (p : ParticipantId) : Halting :=
  if p ∈ t.doomed then { t with live := t.live.kill (Live.linkOf p) } else t

def release (t : Halting) : Halting := if t.isMarked then { t with hosted := false } else t

def store (t : Halting) (files : FileStore) : Halting :=
  { t with live := { t.live with cluster := { t.live.cluster with files } } }

def step (t : Halting) : Action → Halting
  | .enter op => t.enter op
  | .begin k => t.begin k
  | .issue o => t.issue o
  | .work e => t.work e
  | .mark => t.mark
  | .unlist => t.unlist
  | .kill p => t.kill p
  | .release => t.release
  | .store files => t.store files

def steps (t : Halting) (actions : List Action) : Halting := actions.foldl step t

def stopping (c : Cluster) : List Action :=
  .mark :: .unlist :: (c.workerIds.map .kill ++ [.release])

/-- The parts of an operation in the order in which they were completed. -/
def parts (t : Halting) (o : Nat) : List (ParticipantId × Answer) :=
  (t.done.filter (·.1 = o)).map Prod.snd

def tableNames (t : Halting) : Except ClusterError (List String) := do
  let _ ← t.ready "list tables"
  .ok t.live.cluster.own.tableNames

def describe (t : Halting) (name : String) : Except ClusterError (List (String × DataType)) := do
  let _ ← t.ready "describe table"
  Cluster.lift (t.live.cluster.own.describe name)

def explain (t : Halting) (sql : String) (detailed : Bool) : Except ClusterError String := do
  let _ ← t.ready "explain"
  Cluster.lift (t.live.cluster.own.explain sql detailed)

end Halting

end ShardQuery
