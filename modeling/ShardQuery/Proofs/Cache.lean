import ShardQuery.Proofs.Cluster.Exchange
import Mathlib.Data.List.Nodup

namespace ShardQuery

/-- What a cache is asked for. -/
inductive CacheRequest where
  | put (token : CorrelationToken) (id : MessageId) (batch : Batch)
  | pull (id : MessageId)
  | discard (id : MessageId)
deriving DecidableEq, Repr

namespace CacheRequest

def written? : CacheRequest → Option MessageId
  | put _ id _ => some id
  | _ => none

def written (rs : List CacheRequest) : List MessageId := rs.filterMap written?

/-- A reader only pulls what it was told of, so that each pull comes after a write of its id. -/
def InOrder (rs : List CacheRequest) : Prop :=
  ∀ before id after, rs = before ++ pull id :: after → id ∈ written before

variable {rs qs : List CacheRequest} {id : MessageId}

theorem written_append (rs qs : List CacheRequest) :
    written (rs ++ qs) = written rs ++ written qs :=
  List.filterMap_append

theorem mem_written_iff : id ∈ written rs ↔ ∃ token batch, put token id batch ∈ rs := by
  rw [written, List.mem_filterMap]
  constructor
  · rintro ⟨r, hr, he⟩
    cases r with
    | put token i batch =>
      cases he
      exact ⟨token, batch, hr⟩
    | pull i => cases he
    | discard i => cases he
  · rintro ⟨token, batch, hr⟩
    exact ⟨_, hr, rfl⟩

theorem inOrder_nil : InOrder [] := by
  intro before id after h
  cases before <;> cases h

theorem InOrder.append (h : InOrder rs) (hq : ∀ id, pull id ∈ qs → id ∈ written rs) :
    InOrder (rs ++ qs) := by
  intro before id after he
  obtain ⟨m, rfl, hm⟩ | ⟨m, rfl, hm⟩ := List.append_eq_append_iff.1 he
  · rw [written_append]
    refine List.mem_append_left _ (hq id ?_)
    rw [hm]
    exact List.mem_append_right _ (List.mem_cons_self ..)
  · cases m with
    | nil =>
      have hmem : pull id ∈ qs := by
        rw [← show pull id :: after = qs from hm]
        exact List.mem_cons_self ..
      have hid := hq id hmem
      rw [List.append_nil] at hid
      exact hid
    | cons r m =>
      cases hm
      exact h before id m rfl

end CacheRequest

namespace PartitionCache

open CacheRequest

variable {c : PartitionCache} {id : MessageId} {r : CacheRequest} {rs : List CacheRequest}

/-- The cache after a request. One that is refused leaves it as it was. -/
def serve (c : PartitionCache) : CacheRequest → PartitionCache
  | .put token id batch =>
    match c.put token id batch with
    | .ok d => d
    | .error _ => c
  | .pull id =>
    match c.pull id with
    | .ok (_, d) => d
    | .error _ => c
  | .discard id => (c.discard id).2

def serveAll (c : PartitionCache) (rs : List CacheRequest) : PartitionCache := rs.foldl serve c

@[simp] theorem serveAll_cons (c : PartitionCache) (r : CacheRequest) (rs : List CacheRequest) :
    c.serveAll (r :: rs) = (c.serve r).serveAll rs := rfl

theorem serveAll_append (c : PartitionCache) (rs qs : List CacheRequest) :
    c.serveAll (rs ++ qs) = (c.serveAll rs).serveAll qs := List.foldl_append

theorem serve_put (c : PartitionCache) (token : CorrelationToken) (id : MessageId) (batch : Batch) :
    c.serve (.put token id batch) =
      if c.isAbandoned id then { c with abandoned := c.abandoned.filter (· ≠ id) }
      else if c.contains id then c
      else { c with stored := c.stored.insert id ⟨c.owner, token, batch⟩ } := by
  simp only [serve, put]
  cases c.isAbandoned id with
  | true => rfl
  | false => cases c.contains id <;> rfl

theorem serve_pull (c : PartitionCache) (id : MessageId) :
    c.serve (.pull id) = { c with stored := c.stored.erase id } := by
  simp only [serve, pull]
  cases hf : c.stored.find? id with
  | none => rw [FiniteMap.erase_of_notMem _ ((FiniteMap.find?_eq_none_iff ..).1 hf)]
  | some p => rfl

theorem serve_discard (c : PartitionCache) (id : MessageId) :
    c.serve (.discard id) =
      if c.contains id then { c with stored := c.stored.erase id }
      else { c with abandoned := id :: c.abandoned.filter (· ≠ id) } := by
  simp only [serve, discard]
  split <;> rfl

theorem put_eq_ok (hc : c.contains id = false) (token : CorrelationToken) (batch : Batch) :
    c.put token id batch = .ok (c.serve (.put token id batch)) := by
  rw [serve_put, put, hc]
  cases c.isAbandoned id <;> rfl

theorem owner_serve (c : PartitionCache) (r : CacheRequest) : (c.serve r).owner = c.owner := by
  cases r with
  | put token id batch =>
    rw [serve_put]
    split
    · rfl
    · split <;> rfl
  | pull id => rw [serve_pull]
  | discard id =>
    rw [serve_discard]
    split <;> rfl

/-- Only a write of an id stores anything under it. -/
theorem contains_serve (hr : r.written? ≠ some id) (hc : c.contains id = false) :
    (c.serve r).contains id = false := by
  cases r with
  | put token i batch =>
    have hi : id ≠ i := fun he => hr (he ▸ rfl)
    rw [serve_put]
    split
    · exact hc
    · split
      · exact hc
      · simp [hc, hi]
  | pull i => simp [serve_pull, hc]
  | discard i =>
    rw [serve_discard]
    split
    · simp [hc]
    · exact hc

theorem contains_serve_pull (c : PartitionCache) (id : MessageId) :
    (c.serve (.pull id)).contains id = false := by
  simp [serve_pull]

theorem contains_serve_discard (c : PartitionCache) (id : MessageId) :
    (c.serve (.discard id)).contains id = false := by
  rw [serve_discard]
  split
  · simp
  · next hc => exact Bool.eq_false_iff.2 hc

theorem isAbandoned_serve_discard (hc : c.contains id = false) :
    (c.serve (.discard id)).isAbandoned id = true := by
  rw [serve_discard, hc, isAbandoned_iff]
  exact List.mem_cons_self ..

/-- A mark stays until the write that it is for. -/
theorem isAbandoned_serve (hr : r.written? ≠ some id) (ha : c.isAbandoned id = true) :
    (c.serve r).isAbandoned id = true := by
  rw [isAbandoned_iff] at ha ⊢
  cases r with
  | put token i batch =>
    have hi : id ≠ i := fun he => hr (he ▸ rfl)
    rw [serve_put]
    split
    · exact List.mem_filter.2 ⟨ha, decide_eq_true hi⟩
    · split <;> exact ha
  | pull i =>
    rw [serve_pull]
    exact ha
  | discard i =>
    rw [serve_discard]
    split
    · exact ha
    · by_cases hi : id = i
      · subst hi
        exact List.mem_cons_self ..
      · exact List.mem_cons_of_mem _ (List.mem_filter.2 ⟨ha, decide_eq_true hi⟩)

/-- Every mark was left by one who gave its id up. -/
theorem discard_of_isAbandoned_serve (ha : (c.serve r).isAbandoned id = true) :
    c.isAbandoned id = true ∨ r = .discard id := by
  rw [isAbandoned_iff] at ha ⊢
  cases r with
  | put token i batch =>
    left
    rw [serve_put] at ha
    split at ha
    · exact List.mem_of_mem_filter ha
    · split at ha <;> exact ha
  | pull i =>
    rw [serve_pull] at ha
    exact .inl ha
  | discard i =>
    rw [serve_discard] at ha
    split at ha
    · exact .inl ha
    · rcases List.mem_cons.1 ha with rfl | hm
      · exact .inr rfl
      · exact .inl (List.mem_of_mem_filter hm)

theorem notMem_written_cons (h : id ∉ written (r :: rs)) :
    r.written? ≠ some id ∧ id ∉ written rs := by
  constructor
  · intro he
    exact h (List.mem_filterMap.2 ⟨r, List.mem_cons_self .., he⟩)
  · intro hm
    obtain ⟨q, hq, he⟩ := List.mem_filterMap.1 hm
    exact h (List.mem_filterMap.2 ⟨q, List.mem_cons_of_mem _ hq, he⟩)

theorem contains_serveAll (hc : c.contains id = false) (hw : id ∉ written rs) :
    (c.serveAll rs).contains id = false := by
  induction rs generalizing c with
  | nil => exact hc
  | cons r rs ih =>
    obtain ⟨hr, hrs⟩ := notMem_written_cons hw
    exact ih (contains_serve hr hc) hrs

/-- What was pulled or given up after its last write is gone. -/
theorem contains_serveAll_of_removed (hw : id ∉ written rs)
    (hr : .pull id ∈ rs ∨ .discard id ∈ rs) : (c.serveAll rs).contains id = false := by
  induction rs generalizing c with
  | nil => rcases hr with h | h <;> cases h
  | cons r rs ih =>
    obtain ⟨-, hrs⟩ := notMem_written_cons hw
    rw [serveAll_cons]
    rcases hr with h | h
    · rcases List.mem_cons.1 h with rfl | h
      · exact contains_serveAll (contains_serve_pull c id) hrs
      · exact ih hrs (.inl h)
    · rcases List.mem_cons.1 h with rfl | h
      · exact contains_serveAll (contains_serve_discard c id) hrs
      · exact ih hrs (.inr h)

theorem isAbandoned_serveAll (ha : c.isAbandoned id = true) (hw : id ∉ written rs) :
    (c.serveAll rs).isAbandoned id = true := by
  induction rs generalizing c with
  | nil => exact ha
  | cons r rs ih =>
    obtain ⟨hr, hrs⟩ := notMem_written_cons hw
    exact ih (isAbandoned_serve hr ha) hrs

/-- What was given up before its write is marked when the write comes. -/
theorem isAbandoned_serveAll_of_discard (hc : c.contains id = false) (hw : id ∉ written rs)
    (hd : .discard id ∈ rs) : (c.serveAll rs).isAbandoned id = true := by
  induction rs generalizing c with
  | nil => cases hd
  | cons r rs ih =>
    obtain ⟨hr, hrs⟩ := notMem_written_cons hw
    rw [serveAll_cons]
    rcases List.mem_cons.1 hd with rfl | hd
    · exact isAbandoned_serveAll (isAbandoned_serve_discard hc) hrs
    · exact ih (contains_serve hr hc) hrs hd

theorem discard_of_isAbandoned_serveAll (ha : (c.serveAll rs).isAbandoned id = true) :
    c.isAbandoned id = true ∨ .discard id ∈ rs := by
  induction rs generalizing c with
  | nil => exact .inl ha
  | cons r rs ih =>
    rcases ih ha with ha | hd
    · rcases discard_of_isAbandoned_serve ha with ha | rfl
      · exact .inl ha
      · exact .inr (List.mem_cons_self ..)
    · exact .inr (List.mem_cons_of_mem _ hd)

/--
Whatever the order in which a cache serves its requests, as long as nobody pulls what was not
written: an id that is written once at most, and is pulled or given up if it is, is not stored in
the end.
-/
theorem contains_serveAll_of_settled (hc : c.contains id = false) (hn : (written rs).Nodup)
    (hs : id ∈ written rs → .pull id ∈ rs ∨ .discard id ∈ rs) (ho : InOrder rs) :
    (c.serveAll rs).contains id = false := by
  by_cases hw : id ∈ written rs
  · obtain ⟨token, batch, hput⟩ := mem_written_iff.1 hw
    obtain ⟨before, after, rfl⟩ := List.append_of_mem hput
    rw [written_append] at hn
    have hafter : id ∉ written after :=
      (List.nodup_cons.1 (List.nodup_append.1 hn).2.1).1
    have hbefore : id ∉ written before := fun hm =>
      (List.nodup_append.1 hn).2.2 id hm id (List.mem_cons_self ..) rfl
    have hpull : .pull id ∉ before := by
      intro hm
      obtain ⟨first, rest, rfl⟩ := List.append_of_mem hm
      have hearly := ho first id (rest ++ .put token id batch :: after) (by simp)
      refine hbefore ?_
      rw [written_append]
      exact List.mem_append_left _ hearly
    have hlacks := contains_serveAll hc hbefore
    rw [serveAll_append, serveAll_cons]
    by_cases hd : .discard id ∈ before
    · -- the write meets the mark that was left for it
      have hmark := isAbandoned_serveAll_of_discard hc hbefore hd
      refine contains_serveAll ?_ hafter
      simp only [serve, put, if_pos hmark]
      exact hlacks
    · refine contains_serveAll_of_removed hafter ?_
      have hin : ∀ q, q ≠ .put token id batch → q ∉ before →
          q ∈ before ++ .put token id batch :: after → q ∈ after := by
        intro q hq hb hm
        rcases List.mem_append.1 hm with hm | hm
        · exact absurd hm hb
        · exact (List.mem_cons.1 hm).resolve_left hq
      exact (hs hw).imp (hin _ (by simp) hpull) (hin _ (by simp) hd)
  · exact contains_serveAll hc hw

end PartitionCache

end ShardQuery
