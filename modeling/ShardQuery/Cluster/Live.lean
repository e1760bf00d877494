import ShardQuery.Cluster.Coordinator

namespace ShardQuery

inductive Stage where
  | fresh
  /-- Its share was sent, and its request has a number but no room in the worker's queue yet. -/
  | numbered (seq : Nat)
  /-- Its request was sent. -/
  | asked (seq : Nat)
  /-- The worker has delivered, and the result is being pulled. -/
  | pulling
  | ended
deriving DecidableEq, Repr

structure LiveCall where
  call : Call
  stage : Stage
deriving Repr

inductive Aim where
  | conclude (goal : Goal)
  | give (answer : Except ClusterError Answer)
deriving Repr

/-- An operation whose calls are being attended to. -/
structure Running where
  calls : List LiveCall
  /-- The calls that have ended, in order. -/
  ended : List (ParticipantId × Except FailureKind Answer)
  /-- When the calls began. -/
  since : Nat
  aim : Aim
deriving Repr

namespace Running

def fresh (calls : List Call) (since : Nat) (aim : Aim) : Running :=
  ⟨calls.map (⟨·, .fresh⟩), [], since, aim⟩

def withStage (r : Running) (i : Nat) (stage : Stage) : Running :=
  { r with calls := r.calls.modify i fun c => { c with stage } }

def ending (r : Running) (i : Nat) (result : Except FailureKind Answer) : Running :=
  match r.calls[i]? with
  | some c => { r.withStage i .ended with ended := r.ended ++ [(c.call.participant, result)] }
  | none => r

def allEnded (r : Running) : Bool := r.calls.all (·.stage = .ended)

end Running

/-- A query's result that a worker has still to deliver. -/
structure Job where
  seq : Nat
  token : CorrelationToken
  id : MessageId
  batch : Batch
  /-- When the worker had it. -/
  since : Nat
deriving DecidableEq, Repr

/-- A worker's channel with all that is on its way. -/
structure Link where
  channel : Channel
  inbox : List (Nat × Request)
  job : Option Job
  outbox : List (Nat × Reply)
deriving DecidableEq, Repr

structure Live where
  cluster : Cluster
  /-- The time in milliseconds. -/
  now : Nat
  /-- One for each worker, in the order of their ids. -/
  links : List Link
  /-- The queries for which tokens are being taken, by their numbers. -/
  drafts : List (Nat × Draft)
  /-- The operations that are under way, by their numbers. -/
  running : List (Nat × Running)
  /-- How many operations were begun. -/
  begun : Nat
  /-- The answers given so far, by the numbers of the operations. -/
  answers : List (Nat × Except ClusterError Answer)
  /-- Pulls on their way that nobody waits for any more. -/
  strays : List MessageId
deriving Repr

/-- What can happen. Calls are told by their operation and their position, links by theirs. -/
inductive Event where
  | start (op : Operation)
  /-- A query is prepared on the coordinator. -/
  | draft (sql : String)
  /-- A query takes a token for its next worker, or is sent out once all have one. -/
  | issue (op : Nat)
  /-- A call sends its share and takes a number. -/
  | prepare (op call : Nat)
  /-- The coordinator's own part ends. -/
  | own (op call : Nat)
  /-- A request enters the worker's queue. -/
  | send (op call : Nat)
  /-- A worker takes a request from its queue. -/
  | serve (link : Nat)
  /-- A worker delivers a result. -/
  | deliver (link : Nat)
  /-- A reply reaches its call. -/
  | receive (link : Nat)
  /-- The coordinator's cache serves a pull. -/
  | pull (op call : Nat)
  /-- The coordinator finds that a worker has ended. -/
  | close (link : Nat)
  /-- A call is given up. -/
  | expire (op call : Nat)
  /-- An operation goes on after its calls. -/
  | conclude (op : Nat)
  /-- The coordinator's cache serves a pull that nobody waits for. -/
  | stray (position : Nat)
  | stop
  /-- Time passes. -/
  | tick (ms : Nat)
deriving Repr

namespace Live

def idle (c : Cluster) : Live :=
  ⟨c, 0, c.workerIds.map fun p => ⟨.fresh p, [], none, []⟩, [], [], 0, [], []⟩

def op? (l : Live) (o : Nat) : Option Running := l.running.lookup o

def modifyOp (l : Live) (o : Nat) (f : Running → Running) : Live :=
  { l with running := l.running.map fun (n, r) => if n = o then (n, f r) else (n, r) }

def modifyLink (l : Live) (w : Nat) (f : Link → Link) : Live :=
  { l with links := l.links.modify w f }

def endCall (l : Live) (o i : Nat) (result : Except ClusterError Answer) : Live :=
  l.modifyOp o (·.ending i (result.mapError .ofError))

/-- The position of a worker's link. -/
def linkOf (p : ParticipantId) : Nat := p.number - 1

def call? (l : Live) (o i : Nat) : Option LiveCall := do
  let r ← l.op? o
  r.calls[i]?

def room (l : Live) : Nat := max l.cluster.settings.capacity 1

def isAlive (l : Live) (w : Nat) : Bool :=
  match l.cluster.workers[w]? with
  | some worker => worker.alive
  | none => false

def draft (l : Live) (sql : String) : Live :=
  let (cluster, drafted) := l.cluster.draft sql
  let o := l.begun
  let l := { l with cluster, begun := o + 1 }
  match drafted with
  | .error e => { l with answers := l.answers ++ [(o, .error e)] }
  | .ok d => { l with drafts := l.drafts ++ [(o, d)] }

/-- Takes a token for the next worker of a query; once all have one, its calls begin. -/
def issue (l : Live) (o : Nat) : Live :=
  match l.drafts.lookup o with
  | none => l
  | some d =>
    if d.tokens.length < l.cluster.workers.length then
      let (token, tokens) := l.cluster.tokens.next
      { l with
        cluster := { l.cluster with tokens }
        drafts := l.drafts.map fun (n, d) =>
          if n = o then (n, { d with tokens := d.tokens ++ [token] }) else (n, d) }
    else
      let (calls, goal) := l.cluster.dispatch d
      { l with
        drafts := l.drafts.filter (·.1 ≠ o)
        running := l.running ++ [(o, .fresh calls l.now (.conclude goal))] }

/-- Begins an operation under the next number; a query takes all its tokens at once. -/
def start (l : Live) (op : Operation) : Live :=
  let o := l.begun
  match op with
  | .query sql =>
    (List.range (l.cluster.workers.length + 1)).foldl (fun l _ => l.issue o) (l.draft sql)
  | op =>
    let (cluster, begun) := l.cluster.start op
    let l := { l with cluster, begun := o + 1 }
    match begun with
    | .answered answer => { l with answers := l.answers ++ [(o, answer)] }
    | .waiting calls goal =>
      { l with running := l.running ++ [(o, .fresh calls l.now (.conclude goal))] }

/-- Begins the start of all workers under the next number. -/
def launch (l : Live) : Live :=
  { l with
    begun := l.begun + 1
    running := l.running ++
      [(l.begun, .fresh l.cluster.launch l.now (.conclude .launched))] }

def prepare (l : Live) (o i : Nat) : Live :=
  match l.call? o i with
  | some ⟨⟨p, .ask share _⟩, .fresh⟩ =>
    match l.cluster.sendShare p share with
    | .error e => l.endCall o i (.error (.engine e))
    | .ok cluster =>
      match l.links[linkOf p]? with
      | none => l.endCall o i (.error (.channelClosed p))
      | some link =>
        let (seq, channel) := link.channel.issue
        let l := { l with cluster }
        (l.modifyLink (linkOf p) ({ · with channel })).modifyOp o (·.withStage i (.numbered seq))
  | _ => l

def own (l : Live) (o i : Nat) : Live :=
  match l.call? o i with
  | some ⟨⟨_, .own result⟩, .fresh⟩ => l.endCall o i (Cluster.lift (result.map .rows))
  | _ => l

def send (l : Live) (o i : Nat) : Live :=
  match l.call? o i with
  | some ⟨⟨p, .ask _ r⟩, .numbered seq⟩ =>
    let w := linkOf p
    if !l.isAlive w then
      (l.modifyLink w fun k => { k with channel := k.channel.settle seq }).endCall o i
        (.error (.channelClosed p))
    else
      match l.links[w]? with
      | some link =>
        if link.inbox.length < l.room then
          (l.modifyLink w fun k => { k with inbox := k.inbox ++ [(seq, r)] }).modifyOp o
            (·.withStage i (.asked seq))
        else l
      | none => l
  | _ => l

def serve (l : Live) (w : Nat) : Live :=
  match l.links[w]?, l.cluster.workers[w]? with
  | some ⟨channel, (seq, r) :: inbox, none, outbox⟩, some worker =>
    if !worker.alive then l
    else
      let (worker, net, progress) := worker.start l.cluster.files l.cluster.net r
      let cluster := { l.cluster with net, workers := l.cluster.workers.set w worker }
      let link := match progress with
        | .replied reply => ⟨channel, inbox, none, outbox ++ [(seq, reply)]⟩
        | .delivering token id batch =>
          ⟨channel, inbox, some ⟨seq, token, id, batch, l.now⟩, outbox⟩
        | .died => ⟨channel, [], none, outbox⟩
      { l with cluster, links := l.links.set w link }
  | _, _ => l

def deliver (l : Live) (w : Nat) : Live :=
  match l.links[w]?, l.cluster.workers[w]? with
  | some ⟨channel, inbox, some job, outbox⟩, some worker =>
    let (net, reply) := worker.deliver l.cluster.net job.token job.id job.batch
    { l with
      cluster := { l.cluster with net }
      links := l.links.set w ⟨channel, inbox, none, outbox ++ [(job.seq, reply)]⟩ }
  | _, _ => l

/-- Whether a call waits for the reply under a number from a worker. -/
def awaits (p : ParticipantId) (seq : Nat) (c : LiveCall) : Bool :=
  c.call.participant = p && c.stage = .asked seq

/-- The call that waits for the reply under a number from a worker. -/
def waiting? (l : Live) (p : ParticipantId) (seq : Nat) : Option (Nat × Nat) :=
  l.running.findSome? fun (o, r) => (r.calls.findIdx? (awaits p seq)).map (o, ·)

def answerCall (l : Live) (p : ParticipantId) (o i : Nat) (reply : Reply) : Live :=
  match l.call? o i with
  | some ⟨⟨_, .ask _ r⟩, _⟩ =>
    match Channel.meaning p reply >>= r.check p with
    | .error e => l.endCall o i (.error e)
    | .ok () =>
      match r with
      | .runQuery .. => l.modifyOp o (·.withStage i .pulling)
      | _ => l.endCall o i (.ok .done)
  | _ => l

def receive (l : Live) (w : Nat) : Live :=
  match l.links[w]? with
  | some ⟨channel, inbox, job, (seq, reply) :: outbox⟩ =>
    if channel.pending.contains seq then
      let l := { l with links := l.links.set w ⟨channel.settle seq, inbox, job, outbox⟩ }
      match l.waiting? channel.worker seq with
      | some (o, i) => l.answerCall channel.worker o i reply
      | none => l
    else { l with links := l.links.set w ⟨channel, inbox, job, outbox⟩ }
  | _ => l

def pull (l : Live) (o i : Nat) : Live :=
  match l.call? o i with
  | some ⟨⟨_, .ask _ r⟩, .pulling⟩ =>
    let (cluster, result) := l.cluster.collect r
    { l with cluster }.endCall o i result
  | _ => l

/-- Ends the calls of an operation that wait for a worker. -/
def disconnect (p : ParticipantId) (r : Running) : Running :=
  let isWaiting (c : LiveCall) : Bool :=
    c.call.participant = p && match c.stage with
      | .asked _ => true
      | _ => false
  (List.range r.calls.length).foldl (fun r i =>
    if (r.calls[i]?).any isWaiting then r.ending i (.error .disconnected) else r) r

def close (l : Live) (w : Nat) : Live :=
  match l.links[w]? with
  | some ⟨channel, inbox, job, []⟩ =>
    if l.isAlive w then l
    else
      { l with
        links := l.links.set w ⟨channel.abandon, inbox, job, []⟩
        running := l.running.map fun (o, r) => (o, disconnect channel.worker r) }
  | _ => l

def expire (l : Live) (o i : Nat) : Live :=
  match l.cluster.settings.timeoutMs, l.call? o i with
  | some limit, some c =>
    let giveUp (l : Live) : Live := l.modifyOp o (·.ending i (.error (.timedOut limit)))
    match c.stage, c.call.task with
    | .ended, _ => l
    | .pulling, .ask _ (.runQuery _ id _) => giveUp { l with strays := l.strays ++ [id] }
    | _, _ => giveUp l
  | _, _ => l

def answer (l : Live) (o : Nat) (a : Except ClusterError Answer) : Live :=
  { l with
    running := l.running.filter (·.1 ≠ o)
    answers := l.answers ++ [(o, a)] }

def conclude (l : Live) (o : Nat) : Live :=
  match l.op? o with
  | none => l
  | some r =>
    if !r.allEnded then l
    else
      match r.aim with
      | .give a => l.answer o a
      | .conclude goal =>
        if Cluster.breaksOff (.ofEnded r.ended) goal then l
        else
          let (cluster, concluded) := l.cluster.conclude (.ofEnded r.ended) goal
          let l := { l with cluster }
          if concluded.undo.isEmpty then l.answer o concluded.answer
          else l.modifyOp o fun _ => .fresh concluded.undo l.now (.give concluded.answer)

def stray (l : Live) (k : Nat) : Live :=
  match l.strays[k]? with
  | none => l
  | some id =>
    let l := { l with strays := l.strays.eraseIdx k }
    match l.cluster.own.pull l.cluster.net id with
    | .ok (_, net) => { l with cluster := { l.cluster with net } }
    | .error _ => l

def stop (l : Live) : Live :=
  if l.cluster.phase = .stopped then l
  else
    { l with
      cluster := l.cluster.stop
      links := l.links.map fun k => { k with inbox := [], job := none } }

/-- What an event does. Events may come in any order; one that cannot happen changes nothing. -/
def step (l : Live) : Event → Live
  | .start op => l.start op
  | .draft sql => l.draft sql
  | .issue o => l.issue o
  | .prepare o i => l.prepare o i
  | .own o i => l.own o i
  | .send o i => l.send o i
  | .serve w => l.serve w
  | .deliver w => l.deliver w
  | .receive w => l.receive w
  | .pull o i => l.pull o i
  | .close w => l.close w
  | .expire o i => l.expire o i
  | .conclude o => l.conclude o
  | .stray k => l.stray k
  | .stop => l.stop
  | .tick ms => { l with now := l.now + ms }

def steps (l : Live) (events : List Event) : Live := events.foldl step l

/-- The answer of an operation, once it is given. -/
def answer? (l : Live) (o : Nat) : Option (Except ClusterError Answer) := l.answers.lookup o

end Live

end ShardQuery
