import ShardQuery.Engine
import ShardQuery.Cluster.Channel

namespace ShardQuery

/-- How the participants of a cluster behave; those that are not listed are sound. -/
abbrev Conducts := List (ParticipantId × Conduct)

def Conducts.of (cs : Conducts) (p : ParticipantId) : Conduct := (cs.lookup p).getD .sound

namespace Engine

/--
Delivers a partial result into the coordinator's cache. A participant that sends twice has
delivered even if its second sending fails.
-/
def deliver (e : Engine) (net : Interconnect) (token : CorrelationToken) (id : MessageId)
    (batch : Batch) : Interconnect × Except QueryError Unit :=
  if e.conduct.losesPartials then (net, .ok ())
  else
    match e.send net .coordinator token id batch with
    | .error x => (net, .error x)
    | .ok first =>
      if e.conduct.sendsTwice then
        match e.send first .coordinator token id batch with
        | .error x => (first, .error x)
        | .ok second => (second, .ok ())
      else (first, .ok ())

end Engine

structure Worker where
  conducts : Conducts
  engine : Option Engine
  alive : Bool
deriving DecidableEq, Repr

inductive Progress where
  /-- It has answered. -/
  | replied (reply : Reply)
  /-- It has the result of a query and has still to deliver it. -/
  | delivering (token : CorrelationToken) (id : MessageId) (batch : Batch)
  /-- Its process has ended. -/
  | died
deriving DecidableEq, Repr

namespace Worker

def fresh (conducts : Conducts) : Worker := ⟨conducts, none, true⟩

def context (w : Worker) : Except QueryError Engine :=
  match w.engine with
  | some e => .ok e
  | none =>
    .error (.execution "No execution context: createBlazingContext has not been received")

def withEngine (w : Worker) (e : Engine) : Worker := { w with engine := some e }

def ended (w : Worker) : Worker := { w with alive := false }

def begin? (files : FileStore) (net : Interconnect) (w : Worker) :
    Request → Except QueryError (Worker × Interconnect × Progress)
  | .createContext self members =>
    match w.engine with
    | some e => .error (.execution ("Context already created as " ++ e.self.shown))
    | none =>
      if (w.conducts.of self).diesOnContext then .ok (w.ended, net, .died)
      else do
        let (e, net) ← Engine.start self members (w.conducts.of self) net
        .ok (w.withEngine e, net, .replied .contextCreated)
  | .createTable name id => do
    let e ← w.context
    let (batch, net) ← e.pull net id
    let e ← e.create name batch
    .ok (w.withEngine e, net, .replied .tableCreated)
  | .createFromSource slice => do
    let e ← w.context
    let e ← e.createFromSource files slice
    .ok (w.withEngine e, net, .replied .tableCreated)
  | .dropTable name => do
    let e ← w.context
    if e.conduct.diesOnDrop then .ok (w.ended, net, .died)
    else
      let e ← e.drop name
      .ok (w.withEngine e, net, .replied .tableDropped)
  | .runQuery token id query => do
    let e ← w.context
    let prepared ← e.prepare query
    let batch ← prepared.run
    .ok (w, net, .delivering token id batch)

def refusal (e : QueryError) : Reply := .failed e.message

def start (files : FileStore) (net : Interconnect) (w : Worker) (r : Request) :
    Worker × Interconnect × Progress :=
  match w.begin? files net r with
  | .ok next => next
  | .error e => (w, net, .replied (refusal e))

/-- Delivers the result of a query and answers. -/
def deliver (net : Interconnect) (w : Worker) (token : CorrelationToken) (id : MessageId)
    (batch : Batch) : Interconnect × Reply :=
  match w.context with
  | .error e => (net, refusal e)
  | .ok e =>
    match e.deliver net token id batch with
    | (net, .ok ()) => (net, .queryRan token id)
    | (net, .error x) => (net, refusal x)

/-- Does a request to its end; there is no reply from a process that has ended. -/
def handle (files : FileStore) (net : Interconnect) (w : Worker) (r : Request) :
    Worker × Interconnect × Option Reply :=
  match w.start files net r with
  | (w, net, .replied reply) => (w, net, some reply)
  | (w, net, .delivering token id batch) =>
    let (net, reply) := w.deliver net token id batch
    (w, net, some reply)
  | (w, net, .died) => (w, net, none)

/-- Answers a frame. One without a number cannot be answered. -/
def handleFrame (files : FileStore) (net : Interconnect) (w : Worker) (frame : String) :
    Worker × Interconnect × Option String :=
  match Request.read frame with
  | .error _ => (w, net, none)
  | .ok (seq, .error e) =>
    (w, net, some ((Reply.failed (ClusterError.protocol e.message).message).write seq))
  | .ok (seq, .ok r) =>
    let (w, net, reply) := w.handle files net r
    (w, net, reply.map (·.write seq))

/-- A request that fails changes nothing. -/
theorem start_of_error {files : FileStore} {net : Interconnect} {w : Worker} {r : Request}
    (h : w.begin? files net r = .error e) :
    w.start files net r = (w, net, .replied (refusal e)) := by
  simp [start, h]

end Worker

end ShardQuery
