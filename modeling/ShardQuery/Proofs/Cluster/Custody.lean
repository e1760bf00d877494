import ShardQuery.Proofs.Cache
import ShardQuery.Proofs.Cluster.Launch
import ShardQuery.Proofs.Cluster.Traffic

namespace ShardQuery

/-- The id under which a request has the result of a query sent. -/
def Request.messageId? : Request → Option MessageId
  | .runQuery _ id _ => some id
  | _ => none

inductive Progress.Suits : Request → Progress → Prop where
  | ran {id : MessageId} : Suits (.runQuery token id sql) (.delivering token id batch)
  | failed (x : QueryError) : Suits r (.replied (Worker.refusal x))
  | did (h : r.messageId? = none) : Suits r (.replied reply)

variable {ms : Membership} {n : Nat} {cache d : PartitionCache} {id : MessageId}

namespace Interconnect

/-- All participants are reachable, and of all caches only the coordinator's has marks. -/
structure Houses (net : Interconnect) (ms : Membership) (n : Nat) (cache : PartitionCache) :
    Prop where
  own : ∃ a, ms.addressOf .coordinator = .ok a ∧ net.endpoints.find? a.endpoint = some cache
  owner : cache.owner = .coordinator
  reach : ∀ k ≤ n, ∃ a, ms.addressOf ⟨k⟩ = .ok a ∧ net.Binds a ⟨k⟩
  unmarked : ∀ e d, net.endpoints.find? e = some d → d.owner ≠ .coordinator → d.abandoned = []

variable {net m : Interconnect} {a : Address} {p : ParticipantId}

theorem cacheAt_eq_ok (h : net.cacheAt a = .ok d) : net.endpoints.find? a.endpoint = some d := by
  rw [cacheAt] at h
  split at h
  · next hd =>
    cases h
    exact hd
  · cases h

theorem Binds.withCache (h : net.Binds b p) (hd : net.endpoints.find? a.endpoint = some d)
    (ho : d'.owner = d.owner) : (net.withCache a d').Binds b p := by
  obtain ⟨c, hc, rfl⟩ := h
  rw [Binds, find?_withCache]
  split
  · next he =>
    rw [he, hd] at hc
    cases hc
    exact ⟨d', rfl, ho⟩
  · exact ⟨c, hc, rfl⟩

namespace Houses

/-- What happens at the cache of a worker does not touch the coordinator's. -/
theorem withOther (h : net.Houses ms n cache) (hd : net.endpoints.find? a.endpoint = some d)
    (hp : d.owner ≠ .coordinator) (ho : d'.owner = d.owner) (hm : d'.abandoned = d.abandoned) :
    (net.withCache a d').Houses ms n cache where
  own := by
    obtain ⟨b, hb, hc⟩ := h.own
    refine ⟨b, hb, ?_⟩
    rw [find?_withCache, if_neg, hc]
    intro he
    rw [he, hd] at hc
    cases hc
    exact hp h.owner
  owner := h.owner
  reach k hk := by
    obtain ⟨b, hb, hbinds⟩ := h.reach k hk
    exact ⟨b, hb, hbinds.withCache hd ho⟩
  unmarked e c hc hcp := by
    rw [find?_withCache] at hc
    split at hc
    · cases hc
      rw [hm]
      exact h.unmarked _ d hd hp
    · exact h.unmarked e c hc hcp

theorem withOwn (h : net.Houses ms n cache) (ha : ms.addressOf .coordinator = .ok a)
    (ho : d.owner = .coordinator) : (net.withCache a d).Houses ms n d where
  own := ⟨a, ha, by simp⟩
  owner := ho
  reach k hk := by
    obtain ⟨b, hb, hbinds⟩ := h.reach k hk
    obtain ⟨a', ha', hc⟩ := h.own
    rw [ha] at ha'
    cases ha'
    exact ⟨b, hb, hbinds.withCache hc (ho.trans h.owner.symm)⟩
  unmarked e c hc hcp := by
    rw [find?_withCache] at hc
    split at hc
    · cases hc
      exact absurd ho hcp
    · exact h.unmarked e c hc hcp

variable {e : Engine} {token : CorrelationToken} {batch : Batch}

/-- A partition that is sent to a worker arrives at the cache of this worker. -/
theorem send (h : net.Houses ms n cache) (hp : p ≠ .coordinator)
    (hs : e.send net p token id batch = .ok m) : m.Houses ms n cache := by
  obtain ⟨a, -, hs⟩ := Except.bind_eq_ok_iff.1 hs
  obtain ⟨d, hd, hs⟩ := Except.bind_eq_ok_iff.1 hs
  have hfind := cacheAt_eq_ok hd
  split at hs
  · next ho =>
    have hother : d.owner ≠ .coordinator := ho ▸ hp
    rw [Parcel.unpack_pack, Except.ok_bind] at hs
    obtain ⟨d', hput, hm⟩ := Except.bind_eq_ok_iff.1 hs
    cases hm
    have hmarks := h.unmarked _ d hfind hother
    rw [PartitionCache.put, PartitionCache.isAbandoned, hmarks] at hput
    simp only [List.contains_nil, Bool.false_eq_true, if_false] at hput
    split at hput
    · cases hput
    · cases hput
      exact h.withOther hfind hother rfl hmarks.symm
  · cases hs

/-- A worker pulls from its own cache. -/
theorem take (h : net.Houses ms n cache) (he : e.IsSound ms k) (hk : k ≤ n) (h0 : k ≠ 0)
    (hp : e.pull net id = .ok (b, m)) : m.Houses ms n cache := by
  obtain ⟨a, ha, d, hd, ho⟩ := h.reach k hk
  have hother : d.owner ≠ .coordinator := by
    intro hc
    cases ho.symm.trans hc
    exact h0 rfl
  rw [Engine.pull, he.members, he.self, ha, Except.ok_bind, Interconnect.pull,
    cacheAt_of_find? hd, Except.ok_bind, PartitionCache.pull] at hp
  cases hf : d.stored.find? id with
  | none =>
    rw [hf] at hp
    cases hp
  | some q =>
    rw [hf] at hp
    cases hp
    exact h.withOther hd hother rfl rfl

theorem deliver (h : net.Houses ms n cache) (he : e.IsSound ms k) (token : CorrelationToken)
    (id : MessageId) (batch : Batch) :
    ∃ m reply, (Worker.serving e).deliver net token id batch = (m, reply) ∧
      m.Houses ms n (cache.serve (.put token id batch)) ∧
      (cache.contains id = false → reply = .queryRan token id) := by
  obtain ⟨a, ha, hc⟩ := h.own
  have hserving : (Worker.serving e).context = .ok e := rfl
  cases hput : cache.put token id batch with
  | ok d =>
    have hd : cache.serve (.put token id batch) = d := by rw [PartitionCache.serve, hput]
    have hsend : e.send net .coordinator token id batch = .ok (net.withCache a d) := by
      rw [he.send_eq ha, ← h.owner]
      exact put_eq hc hput
    refine ⟨net.withCache a d, .queryRan token id, ?_, ?_, fun _ => rfl⟩
    · simp only [Worker.deliver, hserving, he.deliver_eq hsend]
    · rw [hd]
      exact h.withOwn ha (by rw [← hd, PartitionCache.owner_serve, h.owner])
  | error x =>
    have hd : cache.serve (.put token id batch) = cache := by rw [PartitionCache.serve, hput]
    have hsend : e.send net .coordinator token id batch = .error x := by
      rw [he.send_eq ha, ← h.owner]
      exact put_eq_error hc hput
    refine ⟨net, Worker.refusal x, ?_, ?_, fun habsent => ?_⟩
    · simp only [Worker.deliver, hserving, Engine.deliver, he.conduct, hsend]
      rfl
    · rw [hd]
      exact h
    · rw [PartitionCache.put_eq_ok habsent] at hput
      cases hput

theorem pull (h : net.Houses ms n cache) (he : e.IsSound ms 0) (id : MessageId) :
    (∃ b m, e.pull net id = .ok (b, m) ∧ m.Houses ms n (cache.serve (.pull id))) ∨
      ∃ x, e.pull net id = .error x ∧ cache.serve (.pull id) = cache := by
  obtain ⟨a, ha, hc⟩ := h.own
  have hpull : e.pull net id = cache.pull id >>= fun q => .ok (q.1.batch, net.withCache a q.2) := by
    rw [Engine.pull, he.members, he.self, show ParticipantId.mk 0 = .coordinator from rfl, ha,
      Except.ok_bind, Interconnect.pull, cacheAt_of_find? hc, Except.ok_bind]
    cases cache.pull id <;> rfl
  cases hq : cache.pull id with
  | ok q =>
    have hd : cache.serve (.pull id) = q.2 := by rw [PartitionCache.serve, hq]
    rw [hq] at hpull
    refine .inl ⟨_, _, hpull, ?_⟩
    rw [hd]
    exact h.withOwn ha (by rw [← hd, PartitionCache.owner_serve, h.owner])
  | error x =>
    have hd : cache.serve (.pull id) = cache := by rw [PartitionCache.serve, hq]
    rw [hq] at hpull
    exact .inr ⟨x, hpull, hd⟩

theorem discard (h : net.Houses ms n cache) (he : e.IsSound ms 0) (id : MessageId) :
    ∃ m, e.discard net id = .ok m ∧ m.Houses ms n (cache.serve (.discard id)) := by
  obtain ⟨a, ha, hc⟩ := h.own
  refine ⟨net.withCache a (cache.discard id).2, ?_, h.withOwn ha ?_⟩
  · rw [Engine.discard, he.members, he.self, show ParticipantId.mk 0 = .coordinator from rfl, ha,
      Except.ok_bind, Interconnect.discard, cacheAt_of_find? hc, Except.ok_bind]
    rfl
  · exact (PartitionCache.owner_serve cache (.discard id)).trans h.owner

end Houses

end Interconnect

namespace Interconnect.Houses

variable {net : Interconnect} {e : Engine} {r : Request}

theorem begin_eq_ok (h : net.Houses ms n cache) (he : e.IsSound ms k) (hk : k ≤ n) (h0 : k ≠ 0)
    (hb : (Worker.serving e).begin? files net r = .ok (worker, m, progress)) :
    ∃ e', worker = .serving e' ∧ e'.IsSound ms k ∧ m.Houses ms n cache ∧ progress.Suits r := by
  have hserving : (Worker.serving e).context = .ok e := rfl
  cases r with
  | createContext self members => cases hb
  | createTable name id =>
    simp only [Worker.begin?, hserving, Except.ok_bind] at hb
    obtain ⟨⟨b, m'⟩, hp, hb⟩ := Except.bind_eq_ok_iff.1 hb
    rw [he.create_eq, Except.ok_bind] at hb
    cases hb
    exact ⟨_, rfl, Duty.isSound_withTable he .., h.take he hk h0 hp, .did rfl⟩
  | createFromSource slice =>
    simp only [Worker.begin?, hserving, Except.ok_bind] at hb
    obtain ⟨e', hl, hb⟩ := Except.bind_eq_ok_iff.1 hb
    rw [he.createFromSource_eq] at hl
    obtain ⟨b, -, rfl⟩ := Except.map_eq_ok_iff.1 hl
    cases hb
    exact ⟨_, rfl, Duty.isSound_withTable he .., h, .did rfl⟩
  | dropTable name =>
    simp only [Worker.begin?, hserving, Except.ok_bind, he.conduct] at hb
    obtain ⟨e', hd, hb⟩ := Except.bind_eq_ok_iff.1 hb
    cases hb
    exact ⟨_, rfl, Duty.isSound_drop he hd, h, .did rfl⟩
  | runQuery token id query =>
    simp only [Worker.begin?, hserving, Except.ok_bind] at hb
    obtain ⟨q, -, hb⟩ := Except.bind_eq_ok_iff.1 hb
    obtain ⟨b, -, hb⟩ := Except.bind_eq_ok_iff.1 hb
    cases hb
    exact ⟨_, rfl, he, h, .ran⟩

/-- A worker stays sound, and does not touch the coordinator's cache before it delivers. -/
theorem start (h : net.Houses ms n cache) (he : e.IsSound ms k) (hk : k ≤ n) (h0 : k ≠ 0)
    (files : FileStore) (r : Request) :
    ∃ e' m progress, (Worker.serving e).start files net r = (.serving e', m, progress) ∧
      e'.IsSound ms k ∧ m.Houses ms n cache ∧ progress.Suits r := by
  cases hb : (Worker.serving e).begin? files net r with
  | ok next =>
    obtain ⟨worker, m, progress⟩ := next
    obtain ⟨e', rfl, hrest⟩ := h.begin_eq_ok he hk h0 hb
    refine ⟨e', m, progress, ?_, hrest⟩
    rw [Worker.start, hb]
  | error x => exact ⟨e, net, _, Worker.start_of_error hb, he, h, .failed x⟩

end Interconnect.Houses

/-- A call by which no worker is asked for a query. -/
structure Call.Plain (call : Call) : Prop where
  participant : call.participant ≠ .coordinator
  token : call.token? = none

/-- An operation that is not a query, once it has begun. -/
inductive Begun.Plain : Begun → Prop where
  | answered (a : Except ClusterError Answer) : Plain (.answered a)
  | waiting (hc : ∀ call ∈ calls, call.Plain) (hg : ∀ ids, goal ≠ .queried ids) :
    Plain (.waiting calls goal)

/-- The ids that are given up since nothing came under them in time. -/
def Goal.lateIds (failures : List Failure) : Goal → List MessageId
  | .queried issued => failures.filterMap fun f =>
    match f.kind with
    | .timedOut _ => issued.lookup f.participant
    | _ => none
  | _ => []

namespace Cluster

/--
All participants are sound and live, and the coordinator has a cache among those of the others.
-/
structure Staffed (c : Cluster) (ms : Membership) (n : Nat) (cache : PartitionCache) : Prop where
  own : c.own.IsSound ms 0
  size : c.workers.length = n
  worker : ∀ (w : Nat) worker, c.workers[w]? = some worker →
    ∃ e, worker = .serving e ∧ e.IsSound ms (w + 1)
  net : c.net.Houses ms n cache

structure Begins (c : Cluster) (ms : Membership) (n : Nat) (cache : PartitionCache)
    (next : Cluster × Begun) : Prop where
  staffed : next.1.Staffed ms n cache
  tokens : c.tokens.issued ≤ next.1.tokens.issued
  plain : next.2.Plain

namespace Staffed

variable {c c' : Cluster} {p : ParticipantId}

theorem sendShare (h : c.Staffed ms n cache) {share : Option Share}
    (hp : share.isSome → p ≠ .coordinator) (hs : c.sendShare p share = .ok c') :
    ∃ m, c' = { c with net := m } ∧ m.Houses ms n cache := by
  cases share with
  | none =>
    cases hs
    exact ⟨c.net, rfl, h.net⟩
  | some s =>
    obtain ⟨loses, hs⟩ : ∃ loses : Bool, (if loses then Except.ok c else
        c.own.send c.net p s.token s.id s.batch >>= fun net => .ok { c with net }) = .ok c' :=
      ⟨_, hs⟩
    cases loses with
    | true =>
      cases hs
      exact ⟨c.net, rfl, h.net⟩
    | false =>
      obtain ⟨m, hm, hs⟩ := Except.bind_eq_ok_iff.1 hs
      cases hs
      exact ⟨m, rfl, h.net.send (hp rfl) hm⟩

theorem withNet (h : c.Staffed ms n cache) (hm : m.Houses ms n d) :
    { c with net := m }.Staffed ms n d :=
  ⟨h.own, h.size, h.worker, hm⟩

theorem withOwn (h : c.Staffed ms n cache) (he : e.IsSound ms 0) :
    { c with own := e }.Staffed ms n cache :=
  ⟨he, h.size, h.worker, h.net⟩

theorem withWorker (h : c.Staffed ms n cache) (he : e.IsSound ms (w + 1))
    (hm : m.Houses ms n cache) :
    { c with net := m, workers := c.workers.set w (.serving e) }.Staffed ms n cache where
  own := h.own
  size := by rw [List.length_set]; exact h.size
  worker v worker hv := by
    rw [List.getElem?_set] at hv
    split at hv
    · next hw =>
      subst hw
      split at hv
      · cases hv
        exact ⟨e, rfl, he⟩
      · cases hv
    · exact h.worker v worker hv
  net := hm

theorem mem_workerIds (hp : p ∈ c.workerIds) : p ≠ .coordinator := by
  obtain ⟨i, -, rfl⟩ := List.mem_map.1 hp
  intro he
  cases he

theorem plain_callEach {f : ParticipantId → α → Call} {values : List α}
    (hf : ∀ p v, (f p v).participant = p ∧ (f p v).token? = none) :
    ∀ call ∈ c.callEach f values, call.Plain := by
  intro call hc
  obtain ⟨i, hi⟩ := List.getElem?_of_mem hc
  obtain ⟨p, v, hp, -, rfl⟩ := List.getElem?_zipWith_eq_some.1 hi
  refine ⟨?_, (hf p v).2⟩
  rw [(hf p v).1]
  exact mem_workerIds (List.mem_of_getElem? hp)

theorem answering (h : c.Staffed ms n cache) {r : Except ClusterError (Cluster × Begun)}
    (hok : ∀ next, r = .ok next → c.Begins ms n cache next) :
    c.Begins ms n cache (c.answering r) := by
  cases r with
  | ok next => exact hok next rfl
  | error e => exact ⟨h, Nat.le_refl _, .answered _⟩

/-- Operations that are not queries do not touch the coordinator's cache as they begin. -/
theorem start (h : c.Staffed ms n cache) (hop : ∀ sql, op ≠ .query sql) :
    c.Begins ms n cache (c.start op) := by
  cases op with
  | create name batch =>
    refine h.answering fun next hn => ?_
    obtain ⟨-, -, hn⟩ := Except.bind_eq_ok_iff.1 hn
    obtain ⟨parts, -, hn⟩ := Except.bind_eq_ok_iff.1 hn
    simp only [Cluster.issue, h.own.create_eq] at hn
    cases hn
    refine ⟨⟨Duty.isSound_withTable h.own .., h.size, h.worker, h.net⟩, Nat.le_add_right .., ?_⟩
    exact .waiting (plain_callEach fun _ _ => ⟨rfl, rfl⟩) fun _ hg => by cases hg
  | createFromSource table =>
    refine h.answering fun next hn => ?_
    obtain ⟨-, -, hn⟩ := Except.bind_eq_ok_iff.1 hn
    obtain ⟨-, -, hn⟩ := Except.bind_eq_ok_iff.1 hn
    obtain ⟨table, -, hn⟩ := Except.bind_eq_ok_iff.1 hn
    obtain ⟨slices, -, hn⟩ := Except.bind_eq_ok_iff.1 hn
    cases slices with
    | nil => cases hn
    | cons first rest =>
      have hplain : ∀ result, (Begun.waiting (c.callEach
          (fun p s => ⟨p, .ask none (.createFromSource s)⟩) rest)
          (.loaded table.name result)).Plain := fun result =>
        .waiting (plain_callEach fun _ _ => ⟨rfl, rfl⟩) fun _ hg => by cases hg
      simp only [h.own.createFromSource_eq] at hn
      cases hl : first.load c.files with
      | ok b =>
        rw [hl] at hn
        cases hn
        exact ⟨h.withOwn (Duty.isSound_withTable h.own ..), Nat.le_refl _, hplain _⟩
      | error x =>
        rw [hl] at hn
        cases hn
        exact ⟨h, Nat.le_refl _, hplain _⟩
  | drop name =>
    refine h.answering fun next hn => ?_
    obtain ⟨-, -, hn⟩ := Except.bind_eq_ok_iff.1 hn
    split at hn
    · cases hn
      refine ⟨h, Nat.le_refl _, .waiting (fun call hc => ?_) fun _ hg => by cases hg⟩
      obtain ⟨p, hp, rfl⟩ := List.mem_map.1 hc
      exact ⟨mem_workerIds hp, rfl⟩
    · cases hn
  | query sql => exact absurd rfl (hop sql)

theorem collect (h : c.Staffed ms n cache) (token : CorrelationToken) (id : MessageId)
    (sql : String) :
    ∃ m, (c.collect (.runQuery token id sql)).1 = { c with net := m } ∧
      m.Houses ms n (cache.serve (.pull id)) := by
  rcases h.net.pull h.own id with ⟨b, m, hp, hm⟩ | ⟨x, hp, hc⟩
  · exact ⟨m, by rw [Cluster.collect, hp], hm⟩
  · exact ⟨c.net, by rw [Cluster.collect, hp], by rw [hc]; exact h.net⟩

/-- What came too late is given up in the coordinator's cache. -/
theorem discardLate (h : c.Staffed ms n cache) (issued : List (ParticipantId × MessageId))
    (failures : List Failure) :
    ∃ m, c.discardLate issued failures = { c with net := m } ∧
      m.Houses ms n (cache.serveAll (((Goal.queried issued).lateIds failures).map .discard)) := by
  induction failures generalizing c cache with
  | nil => exact ⟨c.net, rfl, h.net⟩
  | cons f failures ih =>
    rw [Cluster.discardLate, List.foldl_cons, Goal.lateIds, List.filterMap_cons]
    split
    · next limit id hk hid =>
      obtain ⟨m, hm, hhouses⟩ := h.net.discard h.own id
      obtain ⟨m', he, hm'⟩ := ih (h.withNet hhouses)
      simp only [hm, hk, hid]
      exact ⟨m', he, hm'⟩
    · next hno =>
      have hnone : (match f.kind with
          | .timedOut _ => issued.lookup f.participant
          | _ => none) = none := by
        split
        · next limit hk =>
          cases hid : issued.lookup f.participant with
          | none => rfl
          | some id => exact absurd hid (hno limit id hk)
        · rfl
      rw [hnone]
      exact ih h

theorem rollBack (h : c.Staffed ms n cache) (name : String) (created : List ParticipantId) :
    (c.rollBack name created).1.Staffed ms n cache ∧
      (c.rollBack name created).1.tokens = c.tokens ∧
      ∀ call ∈ (c.rollBack name created).2, call.Plain := by
  refine ⟨?_, rfl, fun call hc => ?_⟩
  · refine h.withOwn ?_
    cases hd : c.own.drop name with
    | ok own => exact Duty.isSound_drop h.own hd
    | error x => exact h.own
  · obtain ⟨p, hp, rfl⟩ := List.mem_map.1 hc
    exact ⟨mem_workerIds (List.mem_of_mem_filter hp), rfl⟩

/-- An operation asks the cache only to give up what came too late. -/
theorem conclude (h : c.Staffed ms n cache) (o : Outcome Answer) (goal : Goal) :
    (c.conclude o goal).1.Staffed ms n
        (cache.serveAll ((goal.lateIds o.failures).map .discard)) ∧
      (c.conclude o goal).1.tokens = c.tokens ∧
      (∀ call ∈ (c.conclude o goal).2.undo, call.Plain) ∧
      ∀ ids, goal = .queried ids → (c.conclude o goal).2.undo = [] := by
  have hnil : ∀ call ∈ ([] : List Call), call.Plain := fun call hc => by cases hc
  cases goal with
  | launched =>
    simp only [Cluster.conclude]
    split <;> exact ⟨⟨h.own, h.size, h.worker, h.net⟩, rfl, hnil, fun _ hg => by cases hg⟩
  | created name =>
    simp only [Cluster.conclude]
    split
    · exact ⟨h, rfl, hnil, fun _ hg => by cases hg⟩
    · obtain ⟨hs, ht, hp⟩ := h.rollBack name o.completedIds
      exact ⟨hs, ht, hp, fun _ hg => by cases hg⟩
  | loaded name result =>
    simp only [Cluster.conclude]
    split
    · exact ⟨h, rfl, hnil, fun _ hg => by cases hg⟩
    · obtain ⟨hs, ht, hp⟩ := h.rollBack name o.completedIds
      exact ⟨hs, ht, hp, fun _ hg => by cases hg⟩
  | dropped name =>
    simp only [Cluster.conclude]
    cases hd : c.own.drop name with
    | ok own =>
      exact ⟨h.withOwn (Duty.isSound_drop h.own hd), rfl, hnil, fun _ hg => by cases hg⟩
    | error x => exact ⟨h, rfl, hnil, fun _ hg => by cases hg⟩
  | queried issued =>
    obtain ⟨m, hd, hm⟩ := h.discardLate issued o.failures
    rw [Cluster.conclude, hd]
    exact ⟨h.withNet hm, rfl, hnil, fun _ _ => rfl⟩

end Staffed

end Cluster

end ShardQuery
