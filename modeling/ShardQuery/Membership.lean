import ShardQuery.Error
import ShardQuery.Decimal.Digits

namespace ShardQuery

/-- A participant of a cluster; the coordinator is number zero. -/
structure ParticipantId where
  number : Nat
deriving DecidableEq, Repr

namespace ParticipantId

def coordinator : ParticipantId := ⟨0⟩

def worker (index : Nat) : ParticipantId := ⟨index % UInt32.size + 1⟩

def isCoordinator (p : ParticipantId) : Bool := p.number = 0

def shown (p : ParticipantId) : String := "ral-" ++ Decimal.natText p.number

end ParticipantId

/-- One operation across all participants that it touches. -/
structure CorrelationToken where
  number : Nat
deriving DecidableEq, Repr

/-- The key of a partition that waits to be pulled. -/
structure MessageId where
  text : String
deriving DecidableEq, Repr

def CorrelationToken.messageId (t : CorrelationToken) : MessageId :=
  ⟨"message_" ++ Decimal.natText t.number⟩

theorem CorrelationToken.messageId_injective {s t : CorrelationToken}
    (h : s.messageId = t.messageId) : s = t := by
  cases s
  cases t
  simp only [messageId, MessageId.mk.injEq, String.append_right_inj] at h
  rw [Decimal.natText_injective h]

/-- Gives out tokens from one on, each once. -/
structure TokenIssuer where
  issued : Nat
deriving DecidableEq, Repr

namespace TokenIssuer

def fresh : TokenIssuer := ⟨0⟩

def next (t : TokenIssuer) : CorrelationToken × TokenIssuer := (⟨t.issued + 1⟩, ⟨t.issued + 1⟩)

def take (t : TokenIssuer) (n : Nat) : List CorrelationToken × TokenIssuer :=
  ((List.range n).map fun i => ⟨t.issued + i + 1⟩, ⟨t.issued + n⟩)

end TokenIssuer

structure Address where
  workerId : String
  ip : String
  port : Nat
deriving DecidableEq, Repr

def Address.endpoint (a : Address) : String := a.ip ++ ":" ++ Decimal.natText a.port

/-- All participants in the order of their ids. -/
structure Membership where
  participants : List Address
deriving DecidableEq, Repr

namespace Membership

def lastPort : Nat := 65535

/-- Participants on consecutive ports, if there are enough of them. -/
def build (count : Nat) (ip : String) (basePort : Nat) : Except QueryError Membership :=
  if count = 0 ∨ basePort + (count - 1) ≤ lastPort then
    .ok ⟨(List.range count).map fun i => ⟨Decimal.natText i, ip, basePort + i⟩⟩
  else
    .error (.config ("Port range starting at " ++ Decimal.natText basePort ++ " cannot hold " ++
      Decimal.natText count ++ " participants"))

def size (m : Membership) : Nat := m.participants.length

def get? (m : Membership) (p : ParticipantId) : Option Address := m.participants[p.number]?

def addressOf (m : Membership) (p : ParticipantId) : Except QueryError Address :=
  match m.get? p with
  | some a => .ok a
  | none =>
    .error (.transport (p.shown ++ " is not a member of this cluster (" ++
      Decimal.natText m.size ++ " participants)"))

end Membership

end ShardQuery
