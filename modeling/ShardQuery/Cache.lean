import ShardQuery.FiniteMap
import ShardQuery.Membership
import ShardQuery.Data.Batch

namespace ShardQuery

structure CachedPartition where
  /-- The participant that it waits for. -/
  owner : ParticipantId
  token : CorrelationToken
  batch : Batch
deriving DecidableEq, Repr

/--
The partitions that wait for one participant. Each message id is written once and read once; an id
that was given up is marked, and the mark swallows the write that comes later.
-/
structure PartitionCache where
  owner : ParticipantId
  stored : FiniteMap MessageId CachedPartition
  /-- The ids whose reader gave up before they were written. -/
  abandoned : List MessageId
deriving DecidableEq, Repr

namespace PartitionCache

def empty (owner : ParticipantId) : PartitionCache := ⟨owner, .empty, []⟩

def contains (c : PartitionCache) (id : MessageId) : Bool := c.stored.contains id

def size (c : PartitionCache) : Nat := c.stored.size

/-- Whether the write of an id is to be dropped. -/
def isAbandoned (c : PartitionCache) (id : MessageId) : Bool := c.abandoned.contains id

/-- Stores a partition. A marked id only loses its mark, a stored one is refused. -/
def put (c : PartitionCache) (token : CorrelationToken) (id : MessageId) (batch : Batch) :
    Except QueryError PartitionCache :=
  if c.isAbandoned id then .ok { c with abandoned := c.abandoned.filter (· ≠ id) }
  else if c.contains id then .error (.duplicateMessage id.text)
  else .ok { c with stored := c.stored.insert id ⟨c.owner, token, batch⟩ }

def pull (c : PartitionCache) (id : MessageId) :
    Except QueryError (CachedPartition × PartitionCache) :=
  match c.stored.find? id with
  | some p => .ok (p, { c with stored := c.stored.erase id })
  | none => .error (.cacheMiss id.text)

/-- Gives an id up: its partition is evicted, or else its write will be dropped. -/
def discard (c : PartitionCache) (id : MessageId) : Bool × PartitionCache :=
  if c.contains id then (true, { c with stored := c.stored.erase id })
  else (false, { c with abandoned := id :: c.abandoned.filter (· ≠ id) })

@[simp, grind =]
theorem contains_insert (c : PartitionCache) (id i : MessageId) (p : CachedPartition) :
    { c with stored := c.stored.insert id p }.contains i = (decide (i = id) || c.contains i) :=
  FiniteMap.contains_insert ..

@[simp, grind =]
theorem contains_erase (c : PartitionCache) (id i : MessageId) :
    { c with stored := c.stored.erase id }.contains i = (decide (i ≠ id) && c.contains i) :=
  FiniteMap.contains_erase ..

theorem isAbandoned_iff {c : PartitionCache} {id : MessageId} :
    c.isAbandoned id = true ↔ id ∈ c.abandoned :=
  List.contains_iff_mem

theorem isAbandoned_spent (c : PartitionCache) (id i : MessageId) :
    { c with abandoned := c.abandoned.filter (· ≠ id) }.isAbandoned i =
      (decide (i ≠ id) && c.isAbandoned i) := by
  apply Bool.eq_iff_iff.2
  simp [isAbandoned_iff, and_comm]

theorem isAbandoned_given (c : PartitionCache) (id i : MessageId) :
    { c with abandoned := id :: c.abandoned.filter (· ≠ id) }.isAbandoned i =
      (decide (i = id) || c.isAbandoned i) := by
  apply Bool.eq_iff_iff.2
  by_cases hi : i = id <;> simp [isAbandoned_iff, hi]

def Consistent (c : PartitionCache) : Prop :=
  ∀ id, c.contains id = true → c.isAbandoned id = false

theorem consistent_empty (owner : ParticipantId) : (empty owner).Consistent := by
  intro id h
  cases h

theorem Consistent.put {c d : PartitionCache} {id : MessageId} (hc : c.Consistent)
    (h : c.put token id batch = .ok d) : d.Consistent := by
  simp only [PartitionCache.put] at h
  intro i hi
  split at h
  · cases h
    rw [isAbandoned_spent, hc i hi, Bool.and_false]
  · next hid =>
    split at h
    · cases h
    · cases h
      rw [contains_insert, Bool.or_eq_true, decide_eq_true_eq] at hi
      rcases hi with rfl | hi
      · exact Bool.eq_false_iff.2 hid
      · exact hc i hi

theorem Consistent.pull {c d : PartitionCache} {id : MessageId} (hc : c.Consistent)
    (h : c.pull id = .ok (p, d)) : d.Consistent := by
  simp only [PartitionCache.pull] at h
  split at h
  · cases h
    intro i hi
    simp only [contains_erase, Bool.and_eq_true] at hi
    exact hc i hi.2
  · cases h

theorem Consistent.discard {c : PartitionCache} (hc : c.Consistent) (id : MessageId) :
    (c.discard id).2.Consistent := by
  rw [PartitionCache.discard]
  split
  · intro i hi
    simp only [contains_erase, Bool.and_eq_true] at hi
    exact hc i hi.2
  · next hid =>
    intro i hi
    have hne : i ≠ id := fun he => hid (he ▸ hi)
    rw [isAbandoned_given, decide_eq_false hne, hc i hi, Bool.or_false]

end PartitionCache

end ShardQuery
