import ShardQuery.Proofs.Cluster.History
import ShardQuery.Proofs.Cluster.Sound
import Mathlib.Data.List.Basic

namespace ShardQuery

namespace PartitionCache

variable {c d : PartitionCache} {id : MessageId}

theorem put_of_absent (h : c.stored.find? id = none) (token : CorrelationToken) (batch : Batch) :
    ∃ d, c.put token id batch = .ok d ∧ d.owner = c.owner ∧
      (∀ i, c.isAbandoned i = false → d.isAbandoned i = false) ∧
      (∀ i, i ≠ id → d.stored.find? i = c.stored.find? i) ∧
      (∀ p, d.stored.find? id = some p → p.batch = batch) ∧
      (c.isAbandoned id = false → ∃ p, d.stored.find? id = some p) := by
  cases ha : c.isAbandoned id with
  | true =>
    have hput : c.put token id batch = .ok { c with abandoned := c.abandoned.filter (· ≠ id) } :=
      if_pos ha
    refine ⟨_, hput, rfl, ?_, fun _ _ => rfl, ?_, ?_⟩
    · intro i hi
      simp only [isAbandoned, List.contains_eq_mem, decide_eq_false_iff_not] at hi ⊢
      exact fun hm => hi (List.mem_of_mem_filter hm)
    · intro p hp
      rw [h] at hp
      cases hp
    · intro hf
      cases hf
  | false =>
    refine ⟨_, put_of_lacks ⟨h, ha⟩ token batch, rfl, fun _ hi => hi, ?_, ?_, ?_⟩
    · intro i hi
      simp [hi]
    · intro p hp
      simp only [FiniteMap.find?_insert, if_true] at hp
      cases hp
      rfl
    · intro _
      exact ⟨⟨c.owner, token, batch⟩, by simp⟩

theorem pull_eq_ok (h : c.pull id = .ok (p, d)) :
    c.stored.find? id = some p ∧ d = { c with stored := c.stored.erase id } := by
  rw [pull] at h
  split at h
  · next q hq =>
    cases h
    exact ⟨hq, rfl⟩
  · cases h

theorem discard_spec (c : PartitionCache) (id : MessageId) :
    (c.discard id).2.owner = c.owner ∧
      (∀ i p, (c.discard id).2.stored.find? i = some p → c.stored.find? i = some p) ∧
      ∀ i, i ≠ id → (c.discard id).2.stored.find? i = c.stored.find? i ∧
        (c.isAbandoned i = false → (c.discard id).2.isAbandoned i = false) := by
  rw [discard]
  split
  · exact ⟨rfl, fun i p hp => FiniteMap.find?_of_erase hp,
      fun i hi => ⟨by simp [hi], fun ha => ha⟩⟩
  · refine ⟨rfl, fun i p hp => hp, fun i hi => ⟨rfl, fun ha => ?_⟩⟩
    simp only [isAbandoned, List.contains_eq_mem, decide_eq_false_iff_not] at ha ⊢
    intro hm
    rcases List.mem_cons.1 hm with rfl | hm
    · exact hi rfl
    · exact ha (List.mem_of_mem_filter hm)

end PartitionCache

namespace Cluster

variable {c : Cluster} {es : Nat → Engine} {net : Interconnect} {cache : PartitionCache}
  {id : MessageId}

def Caches (c : Cluster) (net : Interconnect) (cache : PartitionCache) : Prop :=
  ∃ a, c.members.addressOf .coordinator = .ok a ∧
    net.endpoints.find? a.endpoint = some cache ∧ cache.owner = .coordinator

theorem Hosts.exists_caches (h : c.Hosts es) : ∃ cache, c.Caches c.net cache := by
  obtain ⟨a, ha, cache, hc, ho⟩ := h.reach 0 (Nat.zero_le _)
  exact ⟨cache, a, ha, hc, ho⟩

theorem Hosts.deliver_eq (h : c.Hosts es) (hi : i < c.workers.length)
    (hc : c.Caches net cache) (hp : cache.put token id batch = .ok d) (ho : d.owner = cache.owner) :
    ∃ m, (Worker.serving (es (i + 1))).deliver net token id batch = (m, .queryRan token id) ∧
      c.Caches m d := by
  obtain ⟨a, ha, hf, hown⟩ := hc
  have he := h.engine (i + 1) hi
  have hput := Interconnect.put_eq hf hp
  rw [hown] at hput
  have hsend := (he.send_eq ha net token batch).trans hput
  refine ⟨net.withCache a d, ?_, a, ha, ?_, ho.trans hown⟩
  · have hserve : (Worker.serving (es (i + 1))).context = .ok (es (i + 1)) := rfl
    simp only [Worker.deliver, hserve, he.deliver_eq hsend]
  · simp

theorem Hosts.pull_eq_ok (h : c.Hosts es) (hc : c.Caches net cache)
    (hp : cache.pull id = .ok (p, d)) :
    ∃ m, c.own.pull net id = .ok (p.batch, m) ∧ c.Caches m d := by
  obtain ⟨a, ha, hf, hown⟩ := hc
  have hpull := Interconnect.pull_eq hf hp
  refine ⟨net.withCache a d, ?_, a, ha, ?_, ?_⟩
  · rw [h.seats.own]
    exact (h.engine 0 (Nat.zero_le _)).pull_eq ha hpull
  · simp
  · rw [(PartitionCache.pull_eq_ok hp).2]
    exact hown

theorem Hosts.pull_eq_error (h : c.Hosts es) (hc : c.Caches net cache)
    (hp : cache.pull id = .error x) : c.own.pull net id = .error x := by
  obtain ⟨a, ha, hf, -⟩ := hc
  have he := h.engine 0 (Nat.zero_le _)
  have haddress : c.members.addressOf ⟨0⟩ = .ok a := ha
  rw [h.seats.own, Engine.pull, he.members, he.self, haddress, Except.ok_bind, Interconnect.pull,
    Interconnect.cacheAt_of_find? hf, Except.ok_bind, hp]
  rfl

theorem Hosts.discard_eq (h : c.Hosts es) (hc : c.Caches net cache) (id : MessageId) :
    ∃ m, c.own.discard net id = .ok m ∧ c.Caches m (cache.discard id).2 := by
  obtain ⟨a, ha, hf, hown⟩ := hc
  have he := h.engine 0 (Nat.zero_le _)
  have haddress : c.members.addressOf ⟨0⟩ = .ok a := ha
  refine ⟨net.withCache a (cache.discard id).2, ?_, a, ha, ?_, ?_⟩
  · rw [h.seats.own, Engine.discard, he.members, he.self, haddress, Except.ok_bind,
      Interconnect.discard, Interconnect.cacheAt_of_find? hf, Except.ok_bind]
    rfl
  · simp
  · rw [(cache.discard_spec id).1, hown]

/-- A cache in which only some ids were given up since. -/
structure Forgets (ids : List (ParticipantId × MessageId)) (cache d : PartitionCache) : Prop where
  find?_of : ∀ i p, d.stored.find? i = some p → cache.stored.find? i = some p
  other : ∀ i, (∀ p ∈ ids, p.2 ≠ i) → d.stored.find? i = cache.stored.find? i ∧
    (cache.isAbandoned i = false → d.isAbandoned i = false)

theorem forgets_discard (hid : (p, id) ∈ ids) : Forgets ids cache (cache.discard id).2 where
  find?_of := (cache.discard_spec id).2.1
  other i hi := (cache.discard_spec id).2.2 i fun he => hi _ hid he.symm

theorem Forgets.trans (h : Forgets ids cache d) (h' : Forgets ids d d') :
    Forgets ids cache d' where
  find?_of i p hp := h.find?_of i p (h'.find?_of i p hp)
  other i hi := by
    obtain ⟨hf, ha⟩ := h.other i hi
    obtain ⟨hf', ha'⟩ := h'.other i hi
    exact ⟨hf'.trans hf, fun hn => ha' (ha hn)⟩

/-- What came too late is given up in the coordinator's cache, and nothing else is. -/
theorem Hosts.discardLate_eq (h : c.Hosts es) {k : Cluster} (hown : k.own = c.own)
    (hc : c.Caches k.net cache) (ids : List (ParticipantId × MessageId))
    (failures : List Failure) :
    ∃ m d, k.discardLate ids failures = { k with net := m } ∧ c.Caches m d ∧
      Forgets ids cache d := by
  induction failures generalizing k cache with
  | nil => exact ⟨k.net, cache, rfl, hc, fun _ _ hp => hp, fun _ _ => ⟨rfl, fun hn => hn⟩⟩
  | cons f failures ih =>
    rw [discardLate, List.foldl_cons]
    split
    · next limit id _ hid =>
      obtain ⟨m, hm, hcaches⟩ := h.discard_eq hc id
      rw [← hown] at hm
      rw [hm]
      obtain ⟨m', d, he, hd, hforgets⟩ := ih (k := { k with net := m }) hown hcaches
      have hmem : (f.participant, id) ∈ ids := by
        obtain ⟨l₁, l₂, rfl, -⟩ := List.lookup_eq_some_iff.1 hid
        simp
      exact ⟨m', d, he, hd, (forgets_discard hmem).trans hforgets⟩
    · exact ih hown hc

end Cluster

/-- The token of a query that a request asks for. -/
def Request.token? : Request → Option CorrelationToken
  | .runQuery token _ _ => some token
  | _ => none

/-- The token under which a call has its worker run a query. -/
def Call.token? (c : Call) : Option CorrelationToken :=
  match c.task with
  | .own _ => none
  | .ask _ r => r.token?

def Link.tokens (k : Link) : List CorrelationToken :=
  k.job.toList.map Job.token ++ k.inbox.filterMap (·.2.token?)

structure Traffic where
  links : List Link
  strays : List MessageId
  cache : PartitionCache

namespace Traffic

/-- A worker has the query of a token and has not answered it. -/
def Carries (f : Traffic) (t : CorrelationToken) : Prop :=
  ∃ (w : Nat) (k : Link), f.links[w]? = some k ∧ t ∈ k.tokens

/-- A worker has answered the query of a token, and the reply is on its way. -/
def Reports (f : Traffic) (t : CorrelationToken) : Prop :=
  ∃ (w : Nat) (k : Link), f.links[w]? = some k ∧ ∃ m ∈ k.outbox, m.2 = .queryRan t t.messageId

/-- The result under a token waits in the cache. -/
def Holds (f : Traffic) (t : CorrelationToken) : Prop :=
  ∃ p, f.cache.stored.find? t.messageId = some p

/-- The result under a token was not given up. -/
def Wants (f : Traffic) (t : CorrelationToken) : Prop :=
  t.messageId ∉ f.strays ∧ f.cache.isAbandoned t.messageId = false

/-- Nothing has happened under a token yet. -/
structure Untouched (f : Traffic) (t : CorrelationToken) : Prop where
  wants : f.Wants t
  holds : ¬ f.Holds t
  carries : ¬ f.Carries t
  reports : ¬ f.Reports t

/-- How far the query of a token got, by the stage of its call. -/
def Stands (f : Traffic) (t : CorrelationToken) : Stage → Prop
  | .fresh | .numbered _ => f.Untouched t
  | .asked _ => f.Wants t ∧ (f.Reports t → f.Holds t)
  | .pulling => f.Wants t ∧ f.Holds t
  | .ended => True

/-- What a participant has for a query. -/
def part (es : Nat → Engine) (sql : String) (i : Nat) : Except QueryError Batch :=
  (es i).prepare sql >>= Engine.Prepared.run

/-- A worker is asked for a query under the token that it took for this worker. -/
structure Asks (h : History) (w : Nat) (r : Request) (t : CorrelationToken) (o : Nat)
    (sql : String) : Prop where
  request : r = .runQuery t t.messageId sql
  query : h.queries.lookup o = some sql
  owns : h.Owns t o (w + 1)

/-- A worker has to deliver its own part of a query, under the token of that part. -/
structure Delivers (es : Nat → Engine) (h : History) (w : Nat) (j : Job) (o : Nat)
    (sql : String) : Prop where
  id : j.id = j.token.messageId
  query : h.queries.lookup o = some sql
  owns : h.Owns j.token o (w + 1)
  batch : part es sql (w + 1) = .ok j.batch

/--
All that is on its way is accounted for: each worker has a query once and delivers its own part, and
nothing is in the cache that was not delivered.
-/
structure Accounted (es : Nat → Engine) (h : History) (f : Traffic) : Prop where
  inbox : ∀ (w : Nat) (k : Link), f.links[w]? = some k → ∀ m ∈ k.inbox, ∃ t o sql, Asks h w m.2 t o sql
  job : ∀ (w : Nat) (k : Link), f.links[w]? = some k → ∀ j, k.job = some j → ∃ o sql, Delivers es h w j o sql
  once : ∀ (w : Nat) (k : Link), f.links[w]? = some k → k.tokens.Nodup
  carried : ∀ t, f.Carries t → ¬ f.Holds t ∧ ¬ f.Reports t
  held : ∀ t o i sql p, h.Owns t o i → h.queries.lookup o = some sql →
    f.cache.stored.find? t.messageId = some p → part es sql i = .ok p.batch

variable {es : Nat → Engine} {h : History} {f g : Traffic} {t : CorrelationToken} {w : Nat}
  {k k' : Link}

/-- Nothing new happens under a token. -/
structure Still (f g : Traffic) (t : CorrelationToken) : Prop where
  carries : g.Carries t → f.Carries t
  reports : g.Reports t → f.Reports t
  holds : g.Holds t ↔ f.Holds t
  wants : f.Wants t → g.Wants t

theorem Still.untouched (hs : Still f g t) (hf : f.Untouched t) : g.Untouched t where
  wants := hs.wants hf.wants
  holds hg := hf.holds (hs.holds.1 hg)
  carries hg := hf.carries (hs.carries hg)
  reports hg := hf.reports (hs.reports hg)

theorem Still.stands (hs : Still f g t) {s : Stage} (hf : f.Stands t s) : g.Stands t s := by
  cases s with
  | fresh => exact hs.untouched hf
  | numbered => exact hs.untouched hf
  | asked =>
    obtain ⟨hw, hr⟩ := hf
    exact ⟨hs.wants hw, fun hg => hs.holds.2 (hr (hs.reports hg))⟩
  | pulling =>
    obtain ⟨hw, hh⟩ := hf
    exact ⟨hs.wants hw, hs.holds.2 hh⟩
  | ended => trivial

/-- The record may grow by tokens under which nothing is in the cache. -/
theorem Accounted.mono (hf : Accounted es h f) {h' : History}
    (hq : ∀ o sql, h.queries.lookup o = some sql → h'.queries.lookup o = some sql)
    (ho : ∀ t o i, h.Owns t o i → h'.Owns t o i)
    (hold : ∀ t o i, h'.Owns t o i →
      (h.Owns t o i ∧ h'.queries.lookup o = h.queries.lookup o) ∨ ¬ f.Holds t) :
    Accounted es h' f where
  inbox w k hk m hm := by
    obtain ⟨t, o, sql, ha⟩ := hf.inbox w k hk m hm
    exact ⟨t, o, sql, ha.request, hq _ _ ha.query, ho _ _ _ ha.owns⟩
  job w k hk j hj := by
    obtain ⟨o, sql, hd⟩ := hf.job w k hk j hj
    exact ⟨o, sql, hd.id, hq _ _ hd.query, ho _ _ _ hd.owns, hd.batch⟩
  once := hf.once
  carried := hf.carried
  held t o i sql p ht hsql hp := by
    rcases hold t o i ht with ⟨ht, hsame⟩ | hnone
    · exact hf.held t o i sql p ht (hsame ▸ hsql) hp
    · exact absurd ⟨p, hp⟩ hnone

section Links

def withLink (f : Traffic) (w : Nat) (k : Link) : Traffic := { f with links := f.links.set w k }

theorem getElem?_withLink (hv : (f.withLink w k').links[v]? = some j) :
    (v = w ∧ j = k') ∨ (v ≠ w ∧ f.links[v]? = some j) := by
  rw [withLink, List.getElem?_set] at hv
  split at hv
  · next he =>
    split at hv
    · cases hv
      exact .inl ⟨he.symm, rfl⟩
    · cases hv
  · next hne => exact .inr ⟨fun he => hne he.symm, hv⟩

theorem carries_withLink (hc : (f.withLink w k).Carries t) : f.Carries t ∨ t ∈ k.tokens := by
  obtain ⟨v, j, hv, ht⟩ := hc
  rcases getElem?_withLink hv with ⟨rfl, rfl⟩ | ⟨-, hv⟩
  · exact .inr ht
  · exact .inl ⟨v, j, hv, ht⟩

theorem reports_withLink (hk : f.links[w]? = some k)
    (hout : ∀ m ∈ k'.outbox, m.2 = .queryRan t t.messageId → m ∈ k.outbox)
    (hr : (f.withLink w k').Reports t) : f.Reports t := by
  obtain ⟨v, j, hv, m, hm, he⟩ := hr
  rcases getElem?_withLink hv with ⟨rfl, rfl⟩ | ⟨-, hv⟩
  · exact ⟨v, k, hk, m, hout m hm he, he⟩
  · exact ⟨v, j, hv, m, hm, he⟩

theorem still_withLink (hk : f.links[w]? = some k) (ht : t ∈ k'.tokens → t ∈ k.tokens)
    (hout : ∀ m ∈ k'.outbox, m.2 = .queryRan t t.messageId → m ∈ k.outbox) :
    Still f (f.withLink w k') t where
  carries hc := by
    rcases carries_withLink hc with h | h
    · exact h
    · exact ⟨w, k, hk, ht h⟩
  reports := reports_withLink hk hout
  holds := .rfl
  wants hw := hw

/-- What a worker has may change, as long as it reports nothing that is not in the cache. -/
theorem Accounted.withLink (hf : Accounted es h f) (hk : f.links[w]? = some k)
    (hinbox : ∀ m ∈ k'.inbox, ∃ t o sql, Asks h w m.2 t o sql)
    (hjob : ∀ j, k'.job = some j → ∃ o sql, Delivers es h w j o sql)
    (honce : k'.tokens.Nodup)
    (hnew : ∀ t ∈ k'.tokens, t ∈ k.tokens ∨ f.Untouched t)
    (hout : ∀ m ∈ k'.outbox, ∀ t id, m.2 = .queryRan t id → m ∈ k.outbox) :
    Accounted es h (f.withLink w k') where
  inbox v j hv := by
    rcases getElem?_withLink hv with ⟨rfl, rfl⟩ | ⟨-, hv⟩
    · exact hinbox
    · exact hf.inbox v j hv
  job v j hv := by
    rcases getElem?_withLink hv with ⟨rfl, rfl⟩ | ⟨-, hv⟩
    · exact hjob
    · exact hf.job v j hv
  once v j hv := by
    rcases getElem?_withLink hv with ⟨rfl, rfl⟩ | ⟨-, hv⟩
    · exact honce
    · exact hf.once v j hv
  carried t hc := by
    have hr : (f.withLink w k').Reports t → f.Reports t :=
      reports_withLink hk fun m hm he => hout m hm t _ he
    have hcalm : ¬ f.Holds t ∧ ¬ f.Reports t := by
      rcases carries_withLink hc with hc | ht
      · exact hf.carried t hc
      · rcases hnew t ht with hold | hfresh
        · exact hf.carried t ⟨w, k, hk, hold⟩
        · exact ⟨hfresh.holds, hfresh.reports⟩
    exact ⟨hcalm.1, fun hg => hcalm.2 (hr hg)⟩
  held := hf.held

theorem Accounted.heard (hf : Accounted es h f) (hk : f.links[w]? = some k) (channel : Channel)
    {outbox : List (Nat × Reply)} (hout : ∀ m ∈ outbox, m ∈ k.outbox) :
    Accounted es h (f.withLink w { k with channel, outbox }) :=
  hf.withLink hk (hf.inbox w k hk) (hf.job w k hk) (hf.once w k hk) (fun _ ht => .inl ht)
    fun m hm _ _ _ => hout m hm

theorem still_heard (hk : f.links[w]? = some k) (channel : Channel)
    {outbox : List (Nat × Reply)} (hout : ∀ m ∈ outbox, m ∈ k.outbox) :
    Still f (f.withLink w { k with channel, outbox }) t :=
  still_withLink hk (fun ht => ht) fun m hm _ => hout m hm

def queued (k : Link) (seq : Nat) (r : Request) : Link :=
  { k with inbox := k.inbox ++ [(seq, r)] }

theorem tokens_queued (k : Link) (seq : Nat) (t : CorrelationToken) (sql : String) :
    (queued k seq (.runQuery t t.messageId sql)).tokens = k.tokens ++ [t] := by
  rw [Link.tokens, queued, List.filterMap_append, ← List.append_assoc]
  rfl

theorem still_queued (hk : f.links[w]? = some k) (seq : Nat) (sql : String) (hu : t ≠ u) :
    Still f (f.withLink w (queued k seq (.runQuery u u.messageId sql))) t := by
  refine still_withLink hk (fun ht => ?_) fun _ hm _ => hm
  rw [tokens_queued] at ht
  rcases List.mem_append.1 ht with ht | ht
  · exact ht
  · exact absurd (List.mem_singleton.1 ht) hu

theorem reports_queued (hk : f.links[w]? = some k)
    (hr : (f.withLink w (queued k seq r)).Reports t) : f.Reports t := by
  refine reports_withLink hk ?_ hr
  exact fun _ hm _ => hm

theorem Accounted.queued (hf : Accounted es h f) (hk : f.links[w]? = some k)
    (ht : f.Untouched t) (ho : h.Owns t o (w + 1)) (hq : h.queries.lookup o = some sql)
    (seq : Nat) :
    Accounted es h (f.withLink w (queued k seq (.runQuery t t.messageId sql))) := by
  refine hf.withLink hk ?_ (hf.job w k hk) ?_ ?_ fun _ hm _ _ _ => hm
  · intro m hm
    rcases List.mem_append.1 hm with hm | hm
    · exact hf.inbox w k hk m hm
    · cases List.mem_singleton.1 hm
      exact ⟨t, o, sql, rfl, hq, ho⟩
  · rw [tokens_queued]
    refine List.nodup_append.2 ⟨hf.once w k hk, List.nodup_singleton _, ?_⟩
    rintro u hu v hv rfl
    cases List.mem_singleton.1 hv
    exact ht.carries ⟨w, k, hk, hu⟩
  · intro u hu
    rw [tokens_queued] at hu
    rcases List.mem_append.1 hu with hu | hu
    · exact .inl hu
    · cases List.mem_singleton.1 hu
      exact .inr ht

theorem Accounted.owns (hf : Accounted es h f) (hk : f.links[w]? = some k) (ht : t ∈ k.tokens) :
    ∃ o, h.Owns t o (w + 1) := by
  rcases List.mem_append.1 ht with hj | hm
  · obtain ⟨j, hjob, rfl⟩ := List.mem_map.1 hj
    obtain ⟨o, sql, hd⟩ := hf.job w k hk j (Option.mem_toList.1 hjob)
    exact ⟨o, hd.owns⟩
  · obtain ⟨m, hm, he⟩ := List.mem_filterMap.1 hm
    obtain ⟨u, o, sql, ha⟩ := hf.inbox w k hk m hm
    rw [ha.request] at he
    cases he
    exact ⟨o, ha.owns⟩

theorem Accounted.same_link (hf : Accounted es h f) (hd : h.Distinct)
    (hk : f.links[w]? = some k) (ht : t ∈ k.tokens) (hv : f.links[v]? = some j)
    (ht' : t ∈ j.tokens) : v = w := by
  obtain ⟨o, ho⟩ := hf.owns hk ht
  obtain ⟨o', ho'⟩ := hf.owns hv ht'
  obtain ⟨-, he⟩ := ho.unique hd ho'
  omega

end Links

section Caches

theorem Accounted.withCache (hf : Accounted es h f) (ids : List MessageId)
    (hd : ∀ i p, d.stored.find? i = some p → f.cache.stored.find? i = some p) :
    Accounted es h { f with strays := ids, cache := d } where
  inbox := hf.inbox
  job := hf.job
  once := hf.once
  carried t hc := by
    obtain ⟨hh, hr⟩ := hf.carried t hc
    refine ⟨fun hg => hh ?_, hr⟩
    obtain ⟨p, hp⟩ := hg
    exact ⟨p, hd _ _ hp⟩
  held t o i sql p ho hq hp := hf.held t o i sql p ho hq (hd _ _ hp)

theorem still_withCache {ids : List MessageId}
    (hd : d.stored.find? t.messageId = f.cache.stored.find? t.messageId)
    (hw : f.Wants t → t.messageId ∉ ids ∧ d.isAbandoned t.messageId = false) :
    Still f { f with strays := ids, cache := d } t where
  carries hc := hc
  reports hr := hr
  holds := by rw [Holds, hd]; rfl
  wants := hw

end Caches

section Deliveries

variable {j : Job}

def delivered (k : Link) (j : Job) : Link :=
  { k with job := none, outbox := k.outbox ++ [(j.seq, .queryRan j.token j.id)] }

theorem tokens_of_job (hj : k.job = some j) :
    k.tokens = j.token :: (delivered k j).tokens := by
  rw [Link.tokens, hj]
  rfl

theorem Accounted.not_carries_delivered (hf : Accounted es h f) (hd : h.Distinct)
    (hk : f.links[w]? = some k) (hj : k.job = some j) :
    ¬ (f.withLink w (delivered k j)).Carries j.token := by
  have htokens := tokens_of_job hj
  have honce := hf.once w k hk
  rw [htokens] at honce
  rintro ⟨v, i, hv, ht⟩
  rcases getElem?_withLink hv with ⟨rfl, rfl⟩ | ⟨hne, hv⟩
  · exact (List.nodup_cons.1 honce).1 ht
  · refine hne (hf.same_link hd hk ?_ hv ht)
    rw [htokens]
    exact List.mem_cons_self ..

/-- Under another token nothing happens as a result is delivered. -/
theorem still_delivered (hk : f.links[w]? = some k) (hj : k.job = some j) (ht : t ≠ j.token)
    (hkeep : f.cache.isAbandoned t.messageId = false → d.isAbandoned t.messageId = false)
    (hother : d.stored.find? t.messageId = f.cache.stored.find? t.messageId) :
    Still f { f.withLink w (delivered k j) with cache := d } t := by
  have hlink : Still f (f.withLink w (delivered k j)) t := by
    refine still_withLink hk ?_ fun m hm he => ?_
    · intro ht
      rw [tokens_of_job hj]
      exact List.mem_cons_of_mem _ ht
    · rcases List.mem_append.1 hm with hm | hm
      · exact hm
      · cases List.mem_singleton.1 hm
        exact absurd (Reply.queryRan.inj he).1.symm ht
  refine ⟨hlink.carries, hlink.reports, ?_, fun hw => ⟨hw.1, hkeep hw.2⟩⟩
  rw [Holds, Holds, hother]

theorem Accounted.delivered (hf : Accounted es h f) (hd : h.Distinct) (hk : f.links[w]? = some k)
    (hj : k.job = some j) (hjob : Delivers es h w j o sql)
    (hstill : ∀ t, t ≠ j.token → Still f { f.withLink w (delivered k j) with cache := d } t)
    (hother : ∀ t : CorrelationToken, t ≠ j.token →
      d.stored.find? t.messageId = f.cache.stored.find? t.messageId)
    (hbatch : ∀ p, d.stored.find? j.token.messageId = some p → p.batch = j.batch) :
    Accounted es h { f.withLink w (delivered k j) with cache := d } where
  inbox v i hv := by
    rcases getElem?_withLink hv with ⟨rfl, rfl⟩ | ⟨-, hv⟩
    · exact hf.inbox v k hk
    · exact hf.inbox v i hv
  job v i hv := by
    rcases getElem?_withLink hv with ⟨rfl, rfl⟩ | ⟨-, hv⟩
    · intro j' hj'
      cases hj'
    · exact hf.job v i hv
  once v i hv := by
    rcases getElem?_withLink hv with ⟨rfl, rfl⟩ | ⟨-, hv⟩
    · have honce := hf.once v k hk
      rw [tokens_of_job hj] at honce
      exact (List.nodup_cons.1 honce).2
    · exact hf.once v i hv
  carried t hc := by
    by_cases ht : t = j.token
    · subst ht
      exact absurd hc (hf.not_carries_delivered hd hk hj)
    · obtain ⟨hh, hr⟩ := hf.carried t ((hstill t ht).carries hc)
      exact ⟨fun hg => hh ((hstill t ht).holds.1 hg), fun hg => hr ((hstill t ht).reports hg)⟩
  held t o' i sql' p ho hq hp := by
    by_cases ht : t = j.token
    · subst ht
      obtain ⟨rfl, rfl⟩ := ho.unique hd hjob.owns
      cases hq.symm.trans hjob.query
      rw [hbatch p hp]
      exact hjob.batch
    · refine hf.held t o' i sql' p ho hq ?_
      rw [← hother t ht]
      exact hp

/-- A result that a worker has to deliver is put into the cache, unless it was given up. -/
theorem Accounted.deliver (hf : Accounted es h f) (hd : h.Distinct) (hk : f.links[w]? = some k)
    (hj : k.job = some j) :
    ∃ d, f.cache.put j.token j.id j.batch = .ok d ∧ d.owner = f.cache.owner ∧
      Accounted es h { f.withLink w (Traffic.delivered k j) with cache := d } ∧
      ∀ t s, f.Stands t s →
        Stands { f.withLink w (Traffic.delivered k j) with cache := d } t s := by
  obtain ⟨o, sql, hjob⟩ := hf.job w k hk j hj
  have hcarries : f.Carries j.token := by
    refine ⟨w, k, hk, ?_⟩
    rw [tokens_of_job hj]
    exact List.mem_cons_self ..
  obtain ⟨hempty, -⟩ := hf.carried _ hcarries
  have habsent : f.cache.stored.find? j.id = none := by
    rw [hjob.id, Option.eq_none_iff_forall_ne_some]
    exact fun p hp => hempty ⟨p, hp⟩
  obtain ⟨d, hput, howner, hkeep, hother, hbatch, hstored⟩ :=
    PartitionCache.put_of_absent habsent j.token j.batch
  rw [hjob.id] at hother hbatch hstored
  have hsame : ∀ t : CorrelationToken, t ≠ j.token →
      d.stored.find? t.messageId = f.cache.stored.find? t.messageId :=
    fun t ht => hother _ fun he => ht (CorrelationToken.messageId_injective he)
  have hstill := fun t ht => still_delivered (t := t) hk hj ht (hkeep _) (hsame t ht)
  refine ⟨d, hput, howner, hf.delivered hd hk hj hjob hstill hsame hbatch, fun t s hs => ?_⟩
  by_cases ht : t = j.token
  · subst ht
    cases s with
    | fresh => exact absurd hcarries hs.carries
    | numbered => exact absurd hcarries hs.carries
    | asked => exact ⟨⟨hs.1.1, hkeep _ hs.1.2⟩, fun _ => hstored hs.1.2⟩
    | pulling => exact absurd hs.2 hempty
    | ended => trivial
  · exact (hstill t ht).stands hs

end Deliveries

end Traffic

end ShardQuery
