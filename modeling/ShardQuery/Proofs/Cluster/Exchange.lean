import ShardQuery.Interconnect
import ShardQuery.Proofs.Except
import Mathlib.Data.Option.Basic

namespace ShardQuery

variable {id : MessageId}

namespace PartitionCache

/-- Caches of one owner that no operation can tell apart. -/
structure Alike (c d : PartitionCache) : Prop where
  owner : c.owner = d.owner
  find? : ∀ id, c.stored.find? id = d.stored.find? id
  isAbandoned : ∀ id, c.isAbandoned id = d.isAbandoned id

theorem Alike.refl (c : PartitionCache) : c.Alike c := ⟨rfl, fun _ => rfl, fun _ => rfl⟩

theorem Alike.trans (h : Alike c d) (h' : Alike d e) : Alike c e :=
  ⟨h.owner.trans h'.owner, fun id => (h.find? id).trans (h'.find? id),
    fun id => (h.isAbandoned id).trans (h'.isAbandoned id)⟩

/-- Nothing is known under an id: it was not written and not given up. -/
def Lacks (c : PartitionCache) (id : MessageId) : Prop :=
  c.stored.find? id = none ∧ c.isAbandoned id = false

theorem Lacks.of_alike (h : c.Lacks id) (ha : Alike d c) : d.Lacks id :=
  ⟨(ha.find? id).trans h.1, (ha.isAbandoned id).trans h.2⟩

theorem put_of_lacks (h : Lacks c id) (token : CorrelationToken) (batch : Batch) :
    c.put token id batch = .ok { c with stored := c.stored.insert id ⟨c.owner, token, batch⟩ } := by
  have hc : c.contains id = false := FiniteMap.not_contains_of_find? h.1
  rw [put, h.2, hc]
  rfl

theorem pull_insert (c : PartitionCache) (id : MessageId) (p : CachedPartition) :
    { c with stored := c.stored.insert id p }.pull id =
      .ok (p, { c with stored := (c.stored.insert id p).erase id }) := by
  simp [pull]

theorem alike_erase_insert (h : Lacks c id) (p : CachedPartition) :
    Alike { c with stored := (c.stored.insert id p).erase id } c := by
  refine ⟨rfl, fun i => ?_, fun _ => rfl⟩
  by_cases hi : i = id
  · simp [hi, h.1]
  · simp [hi]

end PartitionCache

namespace Interconnect

/-- Interconnects with caches at the same addresses that are alike. -/
def Alike (m n : Interconnect) : Prop :=
  ∀ e, Option.Rel PartitionCache.Alike (m.endpoints.find? e) (n.endpoints.find? e)

theorem Alike.refl (n : Interconnect) : n.Alike n := by
  intro e
  cases n.endpoints.find? e with
  | none => exact .none
  | some c => exact .some (.refl c)

theorem Alike.trans (h : Alike l m) (h' : Alike m n) : Alike l n := by
  intro e
  have h₁ := h e
  have h₂ := h' e
  generalize l.endpoints.find? e = a at h₁
  generalize m.endpoints.find? e = b at h₁ h₂
  cases h₁ with
  | none => exact h₂
  | some ha =>
    generalize n.endpoints.find? e = c at h₂
    cases h₂ with
    | some hb => exact .some (ha.trans hb)

/-- A cache of a participant is bound at an address. -/
def Binds (n : Interconnect) (a : Address) (p : ParticipantId) : Prop :=
  ∃ cache, n.endpoints.find? a.endpoint = some cache ∧ cache.owner = p

theorem Binds.of_alike (h : n.Binds a p) (ha : Alike m n) : m.Binds a p := by
  obtain ⟨c, hc, ho⟩ := h
  have hr := ha a.endpoint
  rw [hc] at hr
  generalize hm : m.endpoints.find? a.endpoint = x at hr
  cases hr with
  | some hd => exact ⟨_, hm, hd.owner.trans ho⟩

/-- No cache knows anything under an id. -/
def Lacks (n : Interconnect) (id : MessageId) : Prop :=
  ∀ e cache, n.endpoints.find? e = some cache → cache.Lacks id

theorem Lacks.of_alike (h : n.Lacks id) (ha : Alike m n) : m.Lacks id := by
  intro e c hc
  have hr := ha e
  rw [hc] at hr
  generalize hn : n.endpoints.find? e = x at hr
  cases hr with
  | some hd => exact (h e _ hn).of_alike hd

theorem cacheAt_of_find? {n : Interconnect} (h : n.endpoints.find? a.endpoint = some c) :
    n.cacheAt a = .ok c := by
  rw [cacheAt, h]

theorem put_eq {n : Interconnect} {token : CorrelationToken}
    (hc : n.endpoints.find? a.endpoint = some c) (hp : c.put token id batch = .ok d) :
    n.put a c.owner token id batch = .ok (n.withCache a d) := by
  rw [put, cacheAt_of_find? hc, Except.ok_bind, if_pos rfl, Parcel.unpack_pack, Except.ok_bind, hp,
    Except.ok_bind]

theorem put_eq_error {n : Interconnect} {token : CorrelationToken}
    (hc : n.endpoints.find? a.endpoint = some c) (hp : c.put token id batch = .error x) :
    n.put a c.owner token id batch = .error x := by
  rw [put, cacheAt_of_find? hc, Except.ok_bind, if_pos rfl, Parcel.unpack_pack, Except.ok_bind, hp,
    Except.error_bind]

theorem pull_eq {n : Interconnect} (hc : n.endpoints.find? a.endpoint = some c)
    (hp : c.pull id = .ok (p, d)) : n.pull a id = .ok (p, n.withCache a d) := by
  rw [pull, cacheAt_of_find? hc, Except.ok_bind, hp, Except.ok_bind]
  simp only [Parcel.unpack_pack, Except.ok_bind]

/-- What is put under a new id arrives, and nothing of it is left once it was pulled. -/
theorem put_pull {n : Interconnect} (hb : n.Binds a p) (hl : n.Lacks id)
    (token : CorrelationToken) (batch : Batch) :
    ∃ m, n.put a p token id batch = .ok m ∧
      ∃ m', m.pull a id = .ok (⟨p, token, batch⟩, m') ∧ m'.Alike n := by
  obtain ⟨c, hc, rfl⟩ := hb
  have hlc := hl _ _ hc
  refine ⟨_, put_eq hc (PartitionCache.put_of_lacks hlc token batch), _,
    pull_eq (by simp) (PartitionCache.pull_insert c id _), ?_⟩
  intro e
  by_cases he : e = a.endpoint
  · subst he
    simp only [find?_withCache, if_true, hc]
    exact .some (PartitionCache.alike_erase_insert hlc _)
  · simp only [find?_withCache, if_neg he]
    exact Alike.refl n e

end Interconnect

end ShardQuery
