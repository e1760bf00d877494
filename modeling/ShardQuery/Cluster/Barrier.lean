import ShardQuery.Cluster.Failure

namespace ShardQuery

/-- What the participants of a barrier came back with. -/
structure Outcome (α : Type u) where
  /-- The values of those that did their part, in the order in which they did. -/
  completed : List (ParticipantId × α)
  /-- The others, by their ids. -/
  failures : List Failure
deriving DecidableEq, Repr

namespace Outcome

variable {α : Type u}

def completed? : ParticipantId × Except FailureKind α → Option (ParticipantId × α)
  | (p, .ok a) => some (p, a)
  | (_, .error _) => none

def failure? : ParticipantId × Except FailureKind α → Option Failure
  | (_, .ok _) => none
  | (p, .error kind) => some ⟨p, kind⟩

/-- The outcome of calls in the order in which they ended. -/
def ofEnded (ended : List (ParticipantId × Except FailureKind α)) : Outcome α where
  completed := ended.filterMap completed?
  failures := (ended.filterMap failure?).mergeSort fun f g =>
    f.participant.number ≤ g.participant.number

def isComplete (o : Outcome α) : Bool := o.failures.isEmpty

def completedIds (o : Outcome α) : List ParticipantId := o.completed.map Prod.fst

def result (o : Outcome α) (operation : String) :
    Except ClusterError (List (ParticipantId × α)) :=
  if o.isComplete then .ok o.completed else .error (.barrierFailed operation o.failures)

end Outcome

/-- A call with its end: after a time or never. -/
structure TimedCall (α : Type u) where
  participant : ParticipantId
  /-- When it ends, in milliseconds. -/
  after : Option Nat
  result : Except ClusterError α

namespace TimedCall

variable {α : Type u}

/-- The end of a call under a limit: when, and how. One that ends at the limit is in time. -/
def ending? (limit : Option Nat) (c : TimedCall α) :
    Option (Nat × ParticipantId × Except FailureKind α) :=
  let result := c.result.mapError FailureKind.ofError
  match c.after, limit with
  | some t, some l =>
    if t ≤ l then some (t, c.participant, result) else some (l, c.participant, .error (.timedOut l))
  | some t, none => some (t, c.participant, result)
  | none, some l => some (l, c.participant, .error (.timedOut l))
  | none, none => none

end TimedCall

/-- The outcome of calls under a limit, none if the barrier waits forever. -/
def barrier {α : Type u} (limit : Option Nat) (calls : List (TimedCall α)) :
    Option (Outcome α) := do
  let endings ← calls.mapM (TimedCall.ending? limit)
  some (.ofEnded ((endings.mergeSort fun a b => a.1 ≤ b.1).map Prod.snd))

end ShardQuery
