import ShardQuery.Proofs.Cluster.Perform

namespace ShardQuery

/-- A sound engine without tables. -/
def Engine.fresh (ms : Membership) (k : Nat) : Engine := ⟨⟨k⟩, ms, .sound, .empty⟩

theorem Engine.isSound_fresh (ms : Membership) (k : Nat) : (fresh ms k).IsSound ms k :=
  ⟨rfl, rfl, rfl⟩

namespace Interconnect

/-- Nothing was written to any cache, and nothing given up. -/
def Quiet (n : Interconnect) : Prop :=
  ∀ e cache, n.endpoints.find? e = some cache → ∃ p, cache = .empty p

theorem Quiet.lacks (h : Quiet n) (id : MessageId) : n.Lacks id := by
  intro e cache hc
  obtain ⟨p, rfl⟩ := h e cache hc
  exact ⟨rfl, rfl⟩

theorem quiet_empty (protocol : String) : Quiet (.empty protocol) := by
  intro e cache hc
  cases hc

theorem Quiet.bind (h : Quiet n) (hb : n.bind a p = .ok m) : m.Quiet := by
  intro e cache hc
  rw [find?_bind hb] at hc
  split at hc
  · cases hc
    exact ⟨p, rfl⟩
  · exact h e cache hc

theorem binds_bind (hb : Interconnect.bind n a p = .ok m) : m.Binds a p :=
  ⟨.empty p, by rw [find?_bind hb, if_pos rfl], rfl⟩

theorem Binds.bind (h : Binds n a p) (hb : n.bind a' p' = .ok m) : m.Binds a p := by
  obtain ⟨cache, hc, ho⟩ := h
  refine ⟨cache, ?_, ho⟩
  rw [find?_bind hb, if_neg ?_, hc]
  intro he
  rw [he] at hc
  have hbound : n.isBound a' = true := FiniteMap.contains_of_find? hc
  rw [Interconnect.bind, hbound] at hb
  cases hb

end Interconnect

namespace Membership

theorem length_build (h : build count ip basePort = .ok ms) : ms.size = count := by
  rw [build] at h
  split at h
  · cases h
    rw [size, List.length_map, List.length_range]
  · cases h

theorem le_lastPort (h : build (n + 1) ip basePort = .ok ms) : n ≤ lastPort := by
  rw [build] at h
  split at h
  · omega
  · cases h

theorem addressOf_lt (ms : Membership) (h : k < ms.size) :
    ∃ a, ms.addressOf ⟨k⟩ = .ok a := by
  refine ⟨ms.participants[k], ?_⟩
  rw [addressOf, get?, List.getElem?_eq_getElem h]

end Membership

namespace Engine

theorem start_sound (ha : Membership.addressOf ms ⟨k⟩ = .ok a) (net : Interconnect) :
    start ⟨k⟩ ms .sound net = (net.bind a ⟨k⟩).map fun net => (fresh ms k, net) := by
  rw [start, ha]
  show (Except.ok a >>= _) = _
  rw [Except.ok_bind]
  cases net.bind a ⟨k⟩ <;> rfl

end Engine

namespace Cluster

variable {c d : Cluster}

structure Launching (c : Cluster) (i : Nat) : Prop where
  size : c.members.size = c.workers.length + 1
  narrow : c.workers.length < UInt32.size
  own : c.own = .fresh c.members 0
  workers : c.workers = (List.range c.workers.length).map fun j =>
    if j < i then .serving (.fresh c.members (j + 1)) else .fresh []
  quiet : c.net.Quiet
  binds : ∀ k ≤ i, ∃ a, c.members.addressOf ⟨k⟩ = .ok a ∧ c.net.Binds a ⟨k⟩

def launchCall (c : Cluster) (i : Nat) : Call :=
  ⟨.worker i, .ask none (.createContext (.worker i) c.members)⟩

theorem launch_eq (c : Cluster) : c.launch = (List.range c.workers.length).map c.launchCall := by
  rw [launch, workerIds, List.map_map]
  rfl

namespace Launching

theorem worker_eq (h : c.Launching i) (hj : j < c.workers.length) :
    ParticipantId.worker j = ⟨j + 1⟩ := Cluster.worker_eq h.narrow hj

theorem worker? (h : c.Launching i) (hi : i < c.workers.length) :
    c.worker? ⟨i + 1⟩ = some (.fresh []) := by
  have hc : (ParticipantId.mk (i + 1)).isCoordinator = false := by
    simp [ParticipantId.isCoordinator]
  rw [Cluster.worker?, hc, h.workers]
  simp [hi]

theorem next (h : c.Launching i) (ha : c.members.addressOf ⟨i + 1⟩ = .ok a)
    (hb : c.net.bind a ⟨i + 1⟩ = .ok m) :
    { c with
      net := m
      workers := c.workers.set i (.serving (.fresh c.members (i + 1))) }.Launching (i + 1) where
  size := by rw [List.length_set]; exact h.size
  narrow := by rw [List.length_set]; exact h.narrow
  own := h.own
  workers := by
    conv => lhs; rw [h.workers]
    refine List.ext_getElem (by simp) fun j _ _ => ?_
    rw [List.getElem_set, List.getElem_map, List.getElem_map, List.getElem_range,
      List.getElem_range]
    by_cases hj : i = j
    · subst hj
      rw [if_pos rfl, if_pos (Nat.lt_succ_self i)]
    · have hlt : j < i + 1 ↔ j < i := by omega
      simp only [if_neg hj, hlt]
  quiet := h.quiet.bind hb
  binds k hk := by
    rcases Nat.lt_or_eq_of_le hk with hlt | rfl
    · obtain ⟨a', ha', hb'⟩ := h.binds k (Nat.le_of_lt_succ hlt)
      exact ⟨a', ha', hb'.bind hb⟩
    · exact ⟨a, ha, Interconnect.binds_bind hb⟩

theorem attend (h : c.Launching i) (hi : i < c.workers.length) :
    (∃ x, (c.attend (c.launchCall i)).2 = .error x) ∨
      ∃ net workers, c.attend (c.launchCall i) = ({ c with net, workers }, .ok .done) ∧
        workers.length = c.workers.length ∧ { c with net, workers }.Launching (i + 1) := by
  obtain ⟨a, ha⟩ := c.members.addressOf_lt (k := i + 1) (by rw [h.size]; omega)
  have hcall : c.attend (c.launchCall i) =
      c.ask ⟨i + 1⟩ (.createContext ⟨i + 1⟩ c.members) := by
    rw [launchCall, h.worker_eq hi]
    rfl
  have hbegin : (Worker.fresh []).begin? c.files c.net (.createContext ⟨i + 1⟩ c.members) =
      (c.net.bind a ⟨i + 1⟩).map fun net =>
        (.serving (.fresh c.members (i + 1)), net, .replied .contextCreated) := by
    show (Engine.start ⟨i + 1⟩ c.members .sound c.net >>= _) = _
    rw [Engine.start_sound ha]
    cases c.net.bind a ⟨i + 1⟩ <;> rfl
  rw [hcall, ask, h.worker? hi]
  cases hb : c.net.bind a ⟨i + 1⟩ with
  | error x =>
    rw [hb] at hbegin
    left
    simp only [Worker.handle, Worker.start_of_error hbegin]
    exact ⟨_, rfl⟩
  | ok m =>
    rw [hb] at hbegin
    right
    simp only [Worker.handle, Worker.start, hbegin]
    exact ⟨m, _, rfl, List.length_set, h.next ha hb⟩

theorem attendAll_cons (c : Cluster) (call : Call) (calls : List Call) :
    c.attendAll (call :: calls) =
      (((c.attend call).1.attendAll calls).1,
        (call.participant, (c.attend call).2.mapError .ofError) ::
          ((c.attend call).1.attendAll calls).2) := rfl

/-- All workers start, one after another, or one answers with an error. -/
theorem attendAll (h : c.Launching i) (hi : i + n = c.workers.length)
    (hok : ∀ e ∈ (c.attendAll ((List.range' i n).map c.launchCall)).2, ∃ a, e.2 = .ok a) :
    ∃ net workers,
      (c.attendAll ((List.range' i n).map c.launchCall)).1 = { c with net, workers } ∧
        workers.length = c.workers.length ∧
        { c with net, workers }.Launching c.workers.length := by
  induction n generalizing c i with
  | zero =>
    rw [Nat.add_zero] at hi
    subst hi
    exact ⟨c.net, c.workers, rfl, rfl, h⟩
  | succ n ih =>
    rw [List.range'_succ, List.map_cons, attendAll_cons] at hok ⊢
    rcases h.attend (by omega) with ⟨x, hx⟩ | ⟨net, workers, hstep, hlen, hnext⟩
    · obtain ⟨a, hr⟩ := hok _ (List.mem_cons_self ..)
      rw [hx] at hr
      cases hr
    · rw [hstep] at hok ⊢
      obtain ⟨net', workers', hd, hlen', hlast⟩ := ih hnext (by simp only [hlen]; omega)
        fun e he => hok e (List.mem_cons_of_mem _ he)
      exact ⟨net', workers', hd, hlen'.trans hlen, by rw [← hlen]; exact hlast⟩

theorem hosts (h : c.Launching c.workers.length) :
    { c with phase := .ready }.Hosts (Engine.fresh c.members) where
  seats := by
    have hw : c.workers = (List.range c.workers.length).map fun j =>
        .serving (.fresh c.members (j + 1)) := by
      conv => lhs; rw [h.workers]
      exact List.map_congr_left fun j hj => if_pos (List.mem_range.1 hj)
    rw [Seats, Cluster.hosting]
    simp only [← h.own, ← hw]
  ready := rfl
  size := h.size
  narrow := h.narrow
  engine k _ := Engine.isSound_fresh c.members k
  reach := h.binds
  lacks t _ := h.quiet.lacks _

end Launching

theorem launching_create (h : create s n [] store = .ok c) :
    c.Launching 0 ∧ c.workers.length = n := by
  obtain ⟨ms, hms, h⟩ := Except.bind_eq_ok_iff.1 h
  obtain ⟨⟨own, net⟩, hstart, h⟩ := Except.bind_eq_ok_iff.1 h
  cases h
  have hsize := Membership.length_build hms
  obtain ⟨a, ha⟩ := ms.addressOf_lt (k := 0) (by rw [hsize]; omega)
  have hb := (Engine.start_sound ha (.empty s.protocol)).symm.trans hstart
  obtain ⟨m, hm, he⟩ := Except.map_eq_ok_iff.1 hb
  cases he
  have hle := Membership.le_lastPort hms
  refine ⟨⟨?_, ?_, rfl, ?_, (Interconnect.quiet_empty _).bind hm, ?_⟩, List.length_replicate⟩
  · rw [List.length_replicate, hsize]
  · rw [List.length_replicate]
    exact Nat.lt_of_le_of_lt hle (by decide)
  · refine List.ext_getElem (by simp) fun j _ _ => ?_
    simp
  · intro k hk
    cases Nat.le_zero.1 hk
    exact ⟨a, ha, Interconnect.binds_bind hm⟩

theorem lift_eq_ok_iff {r : Except QueryError α} : lift r = .ok a ↔ r = .ok a := by
  cases r with
  | ok b => exact ⟨fun h => by cases h; rfl, fun h => by cases h; rfl⟩
  | error x => exact ⟨fun h => (by cases h), fun h => (by cases h)⟩

theorem finish_launched (hf : (c.finish calls .launched).2 = .ok a) :
    (∀ e ∈ (c.attendAll calls).2, ∃ a, e.2 = .ok a) ∧
      (c.finish calls .launched).1 = { (c.attendAll calls).1 with phase := .ready } := by
  by_cases ho : (Outcome.ofEnded (c.attendAll calls).2).isComplete = true
  · refine ⟨Outcome.isComplete_ofEnded_iff.1 ho, ?_⟩
    simp only [finish, conclude, Outcome.result_of_complete ho]
    rfl
  · simp only [finish, conclude, Outcome.result_of_incomplete ho] at hf
    cases hf

theorem launching_of_run (h : Cluster.run s n [] store = .ok c) :
    ∃ d : Cluster, d.Launching d.workers.length ∧ d.workers.length = n ∧
      c = { d with phase := .ready } := by
  obtain ⟨c₀, hcreate, h⟩ := Except.bind_eq_ok_iff.1 h
  obtain ⟨_, hanswer, h⟩ := Except.bind_eq_ok_iff.1 h
  obtain ⟨hlaunching, hlen⟩ := launching_create (lift_eq_ok_iff.1 hcreate)
  obtain ⟨hok, hfinish⟩ := finish_launched hanswer
  have hc := (Except.ok.inj h).symm.trans hfinish
  rw [launch_eq, List.range_eq_range'] at hok hc
  obtain ⟨net, workers, hd, hlen', hlast⟩ := hlaunching.attendAll (Nat.zero_add _) hok
  rw [hd] at hc
  rw [← hlen'] at hlast
  exact ⟨_, hlast, hlen'.trans hlen, hc⟩

/-- A cluster that was started without faults. -/
theorem hosts_of_run (h : Cluster.run s n [] store = .ok c) :
    c.Hosts (Engine.fresh c.members) ∧ c.workers.length = n := by
  obtain ⟨d, hlaunching, hlen, rfl⟩ := launching_of_run h
  exact ⟨hlaunching.hosts, hlen⟩

end Cluster

end ShardQuery
