import ShardQuery.Error
import ShardQuery.Membership

namespace ShardQuery

inductive Phase where
  | uninitialized
  /-- Workers are being started. -/
  | initializing
  | ready
  | stopped
deriving DecidableEq, Repr

def Phase.shown : Phase → String
  | uninitialized => "Uninitialized"
  | initializing => "Initializing"
  | ready => "Ready"
  | stopped => "Stopped"

def significantDigits (cs : List Char) : List Char := (cs.reverse.dropWhile (· = '0')).reverse

/-- A span of milliseconds: in milliseconds below a second, else in seconds with a fraction. -/
def spanShown (ms : Nat) : String :=
  if ms = 0 then "0ns"
  else if ms < 1000 then Decimal.natText ms ++ "ms"
  else
    let fraction := significantDigits (Decimal.padded 3 (ms % 1000))
    Decimal.natText (ms / 1000) ++
      (if fraction = [] then "" else "." ++ String.ofList fraction) ++ "s"

inductive FailureKind where
  /-- It answered with an error. -/
  | rejected (reason : String)
  /-- It did not answer within a number of milliseconds. -/
  | timedOut (ms : Nat)
  /-- It went away before it answered. -/
  | disconnected
deriving DecidableEq, Repr

def FailureKind.shown : FailureKind → String
  | rejected reason => reason
  | timedOut ms => "no response after " ++ spanShown ms
  | disconnected => "disconnected"

structure Failure where
  participant : ParticipantId
  kind : FailureKind
deriving DecidableEq, Repr

def Failure.shown (f : Failure) : String := f.participant.shown ++ " (" ++ f.kind.shown ++ ")"

/--
Why an operation of a cluster failed. No case is for a message that cannot be written: requests and
replies of every kind have a form (`Request.write`, `Reply.write`).
-/
inductive ClusterError where
  /-- The cluster does not accept the operation in its phase. -/
  | notReady (operation : String) (phase : Phase)
  /-- A message that nobody can make sense of. -/
  | protocol (reason : String)
  /-- One participant answered with an error. -/
  | participantFailed (participant : ParticipantId) (reason : String)
  /-- Some participants did not do their part. -/
  | barrierFailed (operation : String) (failures : List Failure)
  /-- A worker went away. -/
  | channelClosed (participant : ParticipantId)
  | engine (e : QueryError)
deriving DecidableEq, Repr

namespace ClusterError

def message : ClusterError → String
  | notReady operation phase => "Cannot " ++ operation ++ ": cluster is " ++ phase.shown
  | protocol reason => "Protocol violation: " ++ reason
  | participantFailed p reason => p.shown ++ " failed: " ++ reason
  | barrierFailed operation failures =>
    operation ++ " failed on " ++ Decimal.natText failures.length ++ ": " ++
      String.intercalate ", " (failures.map Failure.shown)
  | channelClosed p => "Channel to " ++ p.shown ++ " closed"
  | engine e => "Query engine error: " ++ e.message

def failedParticipants : ClusterError → List ParticipantId
  | barrierFailed _ failures => failures.map Failure.participant
  | participantFailed p _ => [p]
  | channelClosed p => [p]
  | _ => []

end ClusterError

/-- How the error of one participant counts. -/
def FailureKind.ofError : ClusterError → FailureKind
  | .channelClosed _ => disconnected
  | .participantFailed _ reason => rejected reason
  | e => rejected e.message

end ShardQuery
