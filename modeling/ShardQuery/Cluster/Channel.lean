import ShardQuery.Cluster.Failure
import ShardQuery.Wire.Frame
namespace ShardQuery

structure Channel where
  worker : ParticipantId
  /-- How many numbers were given out. -/
  issued : Nat
  /-- The numbers of the calls that wait for a reply. -/
  pending : List Nat
  /-- Whether the worker still takes requests. -/
  requestsOpen : Bool
  /-- Whether the worker still sends replies. -/
  repliesOpen : Bool
deriving DecidableEq, Repr

namespace Channel

def fresh (worker : ParticipantId) : Channel := ⟨worker, 0, [], true, true⟩

def inFlight (c : Channel) : Nat := c.pending.length

/-- The next number, of a call that waits from now on. -/
def issue (c : Channel) : Nat × Channel :=
  (c.issued + 1, { c with issued := c.issued + 1, pending := c.pending ++ [c.issued + 1] })

def settle (c : Channel) (seq : Nat) : Channel :=
  { c with pending := c.pending.filter (· ≠ seq) }

/-- The end of all calls that wait, since no more replies will come. -/
def abandon (c : Channel) : Channel := { c with pending := [] }

def meaning (worker : ParticipantId) : Reply → Except ClusterError Reply
  | .failed reason => .error (.participantFailed worker reason)
  | r => .ok r

/-- A call by its number, with the frame that is to be sent for it. -/
structure Issued where
  seq : Nat
  frame : Option String
deriving DecidableEq, Repr

/-- Begins a call. Where the worker takes no more requests there is no frame, and it has ended. -/
def call (c : Channel) (r : Request) : Issued × Channel :=
  let (seq, c') := c.issue
  if c.requestsOpen then (⟨seq, some (r.write seq)⟩, c') else (⟨seq, none⟩, c'.settle seq)

/-- The error of a call that will have no reply. -/
def closed (c : Channel) : ClusterError := .channelClosed c.worker

/-- Takes a frame from the worker: the channel after it, and the call that it ends with its end. -/
def receive (c : Channel) (frame : String) :
    Channel × Option (Nat × Except ClusterError Reply) :=
  if !c.repliesOpen then (c, none)
  else
    match Reply.read frame with
    | .error _ => (c, none)
    | .ok (seq, reply) =>
      if c.pending.contains seq then
        let result := match reply with
          | .ok r => meaning c.worker r
          | .error e => .error (.protocol e.message)
        (c.settle seq, some (seq, result))
      else (c, none)

def closeRequests (c : Channel) : Channel := { c with requestsOpen := false }

/-- The worker sends no more replies: the channel after it, and the calls that this ends. -/
def closeReplies (c : Channel) : Channel × List Nat :=
  if c.repliesOpen then ({ c.abandon with repliesOpen := false }, c.pending) else (c, [])

inductive Standing where
  /-- There was no room for its request yet. A reply may have come all the same. -/
  | waiting (reply : Option (Except ClusterError Reply))
  /-- Its request was sent, and no reply has come. -/
  | sent
  | ended (result : Except ClusterError Reply)
deriving Repr

namespace Standing

/-- A reply ends a call whose request was sent, and is kept for one whose request was not. -/
def hear (x : Except ClusterError Reply) : Standing → Standing
  | waiting _ => waiting (some x)
  | sent => ended x
  | ended y => ended y

/-- Once there is room, a call waits for its reply, or has it. -/
def depart : Standing → Standing
  | waiting none => sent
  | waiting (some x) => ended x
  | st => st

/-- A call that has not ended has no end but an error, even if a reply was kept for it. -/
def close (e : ClusterError) : Standing → Standing
  | ended x => ended x
  | _ => ended (.error e)

/-- Whether no reply has come for a call, and it is not lost. -/
def isOpen : Standing → Bool
  | waiting none => true
  | sent => true
  | _ => false

def isWaiting : Standing → Bool
  | waiting _ => true
  | _ => false

end Standing

inductive Event where
  /-- A call takes its number, and waits to send its request. -/
  | call (r : Request)
  /-- The request of a call enters the worker's queue, if there is room. -/
  | send (seq : Nat)
  /-- The worker takes a request from its queue. -/
  | take
  /-- The worker sends a frame, whatever its text. -/
  | frame (text : String)
  /-- The worker goes away, and both queues with it. -/
  | leave
deriving DecidableEq, Repr

structure Placed extends Issued where
  standing : Standing
deriving Repr

/-- A channel with its calls and the requests that were sent. -/
structure Session where
  channel : Channel
  /-- How many requests the worker's queue has room for. -/
  capacity : Nat
  /-- The calls in the order in which they were begun. -/
  calls : List Placed
  /-- What was sent, in order, by the numbers of the calls. -/
  sent : List (Nat × String)
  /-- How much of that the worker has taken from its queue. -/
  taken : Nat
deriving Repr

namespace Session

def fresh (worker : ParticipantId) (capacity : Nat) : Session :=
  ⟨.fresh worker, capacity, [], [], 0⟩

def hasRoom (s : Session) : Bool := s.sent.length < s.taken + s.capacity

/-- The calls with one of them elsewhere. -/
def moved (s : Session) (seq : Nat) (f : Standing → Standing) : List Placed :=
  s.calls.map fun c => if c.seq = seq then { c with standing := f c.standing } else c

def begin (s : Session) (r : Request) : Session :=
  let (issued, channel) := s.channel.call r
  let standing := if issued.frame.isSome then .waiting none else .ended (.error channel.closed)
  { s with channel, calls := s.calls ++ [⟨issued, standing⟩] }

def send (s : Session) (seq : Nat) : Session :=
  match s.calls.find? fun c => c.seq = seq && c.standing.isWaiting with
  | some ⟨⟨_, some frame⟩, _⟩ =>
    if s.hasRoom then { s with calls := s.moved seq .depart, sent := s.sent ++ [(seq, frame)] }
    else s
  | _ => s

def hear (s : Session) (text : String) : Session :=
  match s.channel.receive text with
  | (channel, some (seq, x)) => { s with channel, calls := s.moved seq (.hear x) }
  | (channel, none) => { s with channel }

def step (s : Session) : Event → Session
  | .call r => s.begin r
  | .send seq => s.send seq
  | .take => { s with taken := min (s.taken + 1) s.sent.length }
  | .frame text => s.hear text
  | .leave =>
    { s with
      channel := s.channel.closeRequests.closeReplies.1
      calls := s.calls.map fun c => { c with standing := c.standing.close s.channel.closed } }

def run (s : Session) (events : List Event) : Session := events.foldl step s

end Session

end Channel

end ShardQuery
