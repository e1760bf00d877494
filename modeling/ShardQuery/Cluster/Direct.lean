import ShardQuery.Cluster.Coordinator

namespace ShardQuery

namespace Cluster

/-- What the request of a call comes to, where its worker answers at once. -/
def ask (c : Cluster) (p : ParticipantId) (r : Request) : Cluster × Except ClusterError Answer :=
  match c.worker? p with
  | none => (c, .error (.channelClosed p))
  | some w =>
    if !w.alive then (c, .error (.channelClosed p))
    else
      let (w, net, reply) := w.handle c.files c.net r
      let c := { c.withWorker p w with net }
      match reply with
      | none => (c, .error (.channelClosed p))
      | some reply =>
        match Channel.meaning p reply >>= r.check p with
        | .error e => (c, .error e)
        | .ok () => c.collect r

def attend (c : Cluster) (call : Call) : Cluster × Except ClusterError Answer :=
  match call.task with
  | .own result => (c, lift (result.map .rows))
  | .ask share r =>
    match c.sendShare call.participant share with
    | .error e => (c, .error (.engine e))
    | .ok c => c.ask call.participant r

def attendAll (c : Cluster) : List Call →
    Cluster × List (ParticipantId × Except FailureKind Answer)
  | [] => (c, [])
  | call :: calls =>
    let (c, result) := c.attend call
    let (c, ended) := c.attendAll calls
    (c, (call.participant, result.mapError .ofError) :: ended)

/-- Attends to the calls of an operation, and to those that undo it. -/
def finish (c : Cluster) (calls : List Call) (goal : Goal) :
    Cluster × Except ClusterError Answer :=
  let (c, ended) := c.attendAll calls
  let (c, concluded) := c.conclude (.ofEnded ended) goal
  let (c, _) := c.attendAll concluded.undo
  (c, concluded.answer)

def perform (c : Cluster) (op : Operation) : Cluster × Except ClusterError Answer :=
  match c.start op with
  | (c, .answered answer) => (c, answer)
  | (c, .waiting calls goal) => c.finish calls goal

def query (c : Cluster) (sql : String) : Cluster × Except ClusterError Batch :=
  match c.perform (.query sql) with
  | (c, .ok (.rows b)) => (c, .ok b)
  | (c, .ok .done) => (c, .error (.protocol noPartials))
  | (c, .error e) => (c, .error e)

def run (settings : Settings) (workers : Nat) (conducts : Conducts) (files : FileStore) :
    Except ClusterError Cluster := do
  let c ← lift (create settings workers conducts files)
  let (c, answer) := c.finish c.launch .launched
  let _ ← answer
  .ok c

end Cluster

end ShardQuery
