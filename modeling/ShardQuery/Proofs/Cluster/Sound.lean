import ShardQuery.Cluster.Direct
import ShardQuery.Proofs.Cluster.Exchange
import Mathlib.Logic.Function.Basic

namespace ShardQuery

variable {id : MessageId}

namespace Engine

/-- A sound engine of the member under a number. -/
structure IsSound (e : Engine) (ms : Membership) (k : Nat) : Prop where
  self : e.self = ⟨k⟩
  members : e.members = ms
  conduct : e.conduct = .sound

theorem IsSound.create_eq (h : IsSound e ms k) (name : String) (batch : Batch) :
    e.create name batch = .ok (e.withTable name batch) := by
  rw [create, h.conduct]
  rfl

theorem IsSound.createFromSource_eq (h : IsSound e ms k) (files : FileStore) (s : Slice) :
    e.createFromSource files s = (s.load files).map (e.withTable s.table.name) := by
  rw [createFromSource, h.conduct]
  cases s.load files <;> rfl

theorem IsSound.send_eq (h : IsSound e ms k) (ha : ms.addressOf p = .ok a) (net : Interconnect)
    (token : CorrelationToken) (batch : Batch) :
    e.send net p token id batch = net.put a p token id batch := by
  rw [send, h.members, ha, Except.ok_bind]

theorem IsSound.pull_eq (h : IsSound e ms k) (ha : ms.addressOf ⟨k⟩ = .ok a)
    (hp : Interconnect.pull n a id = .ok (partition, m)) :
    e.pull n id = .ok (partition.batch, m) := by
  rw [pull, h.members, h.self, ha, Except.ok_bind, hp, Except.ok_bind]

theorem IsSound.deliver_eq (h : IsSound e ms k) (hp : e.send n .coordinator token id batch = .ok m) :
    e.deliver n token id batch = (m, .ok ()) := by
  rw [deliver, h.conduct, hp]
  rfl

end Engine

/-- A worker that lives and whose engine was started. -/
def Worker.serving (e : Engine) : Worker := ⟨[], some e, true⟩

namespace Cluster

def hosting (c : Cluster) (es : Nat → Engine) (net : Interconnect) : Cluster :=
  { c with
    net
    own := es 0
    workers := (List.range c.workers.length).map fun i => .serving (es (i + 1)) }

@[simp] theorem length_workers_hosting (c : Cluster) (es : Nat → Engine) (net : Interconnect) :
    (c.hosting es net).workers.length = c.workers.length := by
  simp [hosting]

@[simp] theorem own_hosting (c : Cluster) (es : Nat → Engine) (net : Interconnect) :
    (c.hosting es net).own = es 0 := rfl

@[simp] theorem net_hosting (c : Cluster) (es : Nat → Engine) (net : Interconnect) :
    (c.hosting es net).net = net := rfl

@[simp] theorem members_hosting (c : Cluster) (es : Nat → Engine) (net : Interconnect) :
    (c.hosting es net).members = c.members := rfl

@[simp] theorem files_hosting (c : Cluster) (es : Nat → Engine) (net : Interconnect) :
    (c.hosting es net).files = c.files := rfl

@[simp] theorem hosting_hosting (c : Cluster) (es fs : Nat → Engine) (m n : Interconnect) :
    (c.hosting es m).hosting fs n = c.hosting fs n := by
  simp [hosting]

/-- The participants have these engines, and all workers live. -/
def Seats (c : Cluster) (es : Nat → Engine) : Prop := c.hosting es c.net = c

/-- All participants are sound, reachable and ready for further tokens. -/
structure Hosts (c : Cluster) (es : Nat → Engine) : Prop where
  seats : c.Seats es
  ready : c.phase = .ready
  size : c.members.size = c.workers.length + 1
  narrow : c.workers.length < UInt32.size
  engine : ∀ k ≤ c.workers.length, (es k).IsSound c.members k
  reach : ∀ k ≤ c.workers.length, ∃ a, c.members.addressOf ⟨k⟩ = .ok a ∧ c.net.Binds a ⟨k⟩
  lacks : ∀ t : CorrelationToken, c.tokens.issued < t.number → c.net.Lacks t.messageId

variable {c : Cluster} {es : Nat → Engine}

namespace Seats

theorem withNet (h : c.Seats es) (net : Interconnect) : { c with net } = c.hosting es net := by
  conv => lhs; rw [← h]
  rfl

theorem seats_withNet (h : c.Seats es) (net : Interconnect) : { c with net }.Seats es := by
  rw [h.withNet]
  exact c.hosting_hosting ..

theorem own (h : c.Seats es) : c.own = es 0 := congrArg Cluster.own (Eq.symm h)

theorem workers (h : c.Seats es) :
    c.workers = (List.range c.workers.length).map fun i => .serving (es (i + 1)) :=
  congrArg Cluster.workers (Eq.symm h)

theorem worker? (h : c.Seats es) (hi : i < c.workers.length) :
    c.worker? ⟨i + 1⟩ = some (.serving (es (i + 1))) := by
  have hc : (ParticipantId.mk (i + 1)).isCoordinator = false := by
    simp [ParticipantId.isCoordinator]
  rw [Cluster.worker?, hc, h.workers]
  simp [hi]

theorem engines (h : c.Seats es) : c.engines = (List.range (c.workers.length + 1)).map es := by
  have hf : (Worker.engine ∘ fun i => .serving (es (i + 1))) = fun i => some (es (i + 1)) := rfl
  rw [Cluster.engines, h.own, h.workers, List.filterMap_map, hf, List.filterMap_eq_map',
    List.range_succ_eq_map, List.map_cons, List.map_map, List.length_map, List.length_range]
  rfl

theorem withWorker (h : c.Seats es) (i : Nat) (e : Engine) (net : Interconnect) :
    { c.withWorker ⟨i + 1⟩ (.serving e) with net } =
      c.hosting (Function.update es (i + 1) e) net := by
  have hw : c.workers.set i (.serving e) =
      (List.range c.workers.length).map
        fun j => .serving (Function.update es (i + 1) e (j + 1)) := by
    conv => lhs; rw [h.workers]
    refine List.ext_getElem (by simp) fun j _ _ => ?_
    rw [List.getElem_set, List.getElem_map, List.getElem_map, List.getElem_range]
    split
    · next hj => rw [hj, Function.update_self]
    · next hj => rw [Function.update_of_ne (by omega)]
  have h0 : Function.update es (i + 1) e 0 = c.own := by
    rw [Function.update_of_ne (Nat.succ_ne_zero i).symm, h.own]
  simp only [Cluster.withWorker, Cluster.hosting, Nat.add_sub_cancel, hw, h0]

end Seats

theorem worker_eq (hn : n < UInt32.size) (hi : i < n) : ParticipantId.worker i = ⟨i + 1⟩ := by
  rw [ParticipantId.worker, Nat.mod_eq_of_lt (Nat.lt_trans hi hn)]

theorem workerIds_eq (hn : c.workers.length < UInt32.size) :
    c.workerIds = (List.range c.workers.length).map fun i => ⟨i + 1⟩ :=
  List.map_congr_left fun _ hi => worker_eq hn (List.mem_range.1 hi)

namespace Hosts

theorem workerIds (h : c.Hosts es) :
    c.workerIds = (List.range c.workers.length).map fun i => ⟨i + 1⟩ :=
  workerIds_eq h.narrow

theorem hosting (h : c.Hosts es) {f : Nat → Engine} {net : Interconnect}
    (hf : ∀ k ≤ c.workers.length, (f k).IsSound c.members k) (hn : net.Alike c.net) :
    (c.hosting f net).Hosts f where
  seats := c.hosting_hosting ..
  ready := h.ready
  size := by simpa using h.size
  narrow := by simpa using h.narrow
  engine := by simpa using hf
  reach k hk := by
    rw [length_workers_hosting] at hk
    obtain ⟨a, ha, hb⟩ := h.reach k hk
    exact ⟨a, ha, hb.of_alike hn⟩
  lacks t ht := (h.lacks t ht).of_alike hn

theorem withOwn (h : c.Hosts es) {e : Engine} (he : e.IsSound c.members 0)
    (hn : c.tokens.issued ≤ n) :
    { c with own := e, tokens := ⟨n⟩ }.Hosts (Function.update es 0 e) where
  seats := by
    have hw : (List.range c.workers.length).map
        (fun i => Worker.serving (Function.update es 0 e (i + 1))) = c.workers := by
      conv => rhs; rw [h.seats.workers]
      exact List.map_congr_left fun i _ => by rw [Function.update_of_ne (Nat.succ_ne_zero i)]
    simp only [Seats, Cluster.hosting, Function.update_self, hw]
  ready := h.ready
  size := h.size
  narrow := h.narrow
  engine k hk := by
    by_cases hz : k = 0
    · subst hz
      rw [Function.update_self]
      exact he
    · rw [Function.update_of_ne hz]
      exact h.engine k hk
  reach := h.reach
  lacks t ht := h.lacks t (Nat.lt_of_le_of_lt hn ht)

theorem withTokens (h : c.Hosts es) (hn : c.tokens.issued ≤ n) :
    { c with tokens := ⟨n⟩ }.Hosts es := by
  have hw := h.withOwn (h.engine 0 (Nat.zero_le _)) hn
  rw [Function.update_eq_self] at hw
  rw [← h.seats.own] at hw
  exact hw

end Hosts

end Cluster

end ShardQuery
