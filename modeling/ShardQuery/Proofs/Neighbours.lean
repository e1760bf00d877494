import ShardQuery.Proofs.Cluster.Launch
import ShardQuery.Proofs.Endpoints
import ShardQuery.Proofs.Membership
import Mathlib.Data.List.Induction

namespace ShardQuery

def Engine.startAll (ms : Membership) :
    List Nat → Interconnect → Except QueryError (List Engine × Interconnect)
  | [], net => .ok ([], net)
  | k :: ks, net => do
    let (e, net) ← start ⟨k⟩ ms .sound net
    let (es, net) ← startAll ms ks net
    .ok (e :: es, net)

/-- A partition that one engine sends to a member. -/
structure Sending where
  sender : Engine
  target : Nat
  token : CorrelationToken
  id : MessageId
  batch : Batch

namespace Sending

def post (s : Sending) (net : Interconnect) : Except QueryError Interconnect :=
  s.sender.send net ⟨s.target⟩ s.token s.id s.batch

def postAll (net : Interconnect) (sends : List Sending) : Interconnect :=
  sends.foldl (fun net s => (s.post net).toOption.getD net) net

/-- A cache after a partition was put into it, unless that was refused. -/
def into (c : PartitionCache) (s : Sending) : PartitionCache :=
  (c.put s.token s.id s.batch).toOption.getD c

/-- The cache of a member that got what was sent to it and nothing else. -/
def received (sends : List Sending) (k : Nat) : PartitionCache :=
  (sends.filter (·.target = k)).foldl into (.empty ⟨k⟩)

/-- An engine of one member sends to another one, or to itself. -/
structure Among (ms : Membership) (s : Sending) : Prop where
  sender : ∃ k < ms.size, s.sender.IsSound ms k
  target : s.target < ms.size

end Sending

namespace Interconnect

/-- The members' caches are bound, each at the address of its member, and no other cache is. -/
structure Keeps (net : Interconnect) (ms : Membership) (caches : Nat → PartitionCache) :
    Prop where
  bound : net.boundCount = ms.size
  cache : ∀ k a, ms.participants[k]? = some a → net.endpoints.find? a.endpoint = some (caches k)

end Interconnect

section Starting

variable {ms : Membership} {ip : String} {base : UInt16} {count : Nat} {net : Interconnect}
  {done ks : List Nat}

/-- Some of the members have bound their caches. -/
structure Seated (ip : String) (base : Nat) (done : List Nat) (net : Interconnect) : Prop where
  bound : net.boundCount = done.length
  cache : ∀ k, net.endpoints.find? (Membership.place ip base k).endpoint =
    if k ∈ done then some (.empty ⟨k⟩) else none

theorem seated_empty (ip : String) (base : Nat) (protocol : String) :
    Seated ip base [] (.empty protocol) := ⟨rfl, fun _ => rfl⟩

theorem Seated.bind (h : Seated ip n done net) (hk : k ∉ done) :
    ∃ net', net.bind (Membership.place ip n k) ⟨k⟩ = .ok net' ∧
      Seated ip n (done ++ [k]) net' := by
  have hfree : net.isBound (Membership.place ip n k) = false := by
    apply FiniteMap.not_contains_of_find?
    rw [h.cache, if_neg hk]
  have hbind : net.bind (Membership.place ip n k) ⟨k⟩ =
      .ok (net.withCache (Membership.place ip n k) (.empty ⟨k⟩)) := by
    rw [Interconnect.bind, hfree]
    rfl
  refine ⟨_, hbind, ⟨?_, fun j => ?_⟩⟩
  · rw [Interconnect.isBound] at hfree
    simp [Interconnect.boundCount, Interconnect.withCache, hfree, ← h.bound]
  · rw [Interconnect.find?_withCache, h.cache]
    by_cases hj : j = k
    · subst hj
      simp
    · have hne : (Membership.place ip n j).endpoint ≠ (Membership.place ip n k).endpoint :=
        fun he => hj (Membership.endpoint_place_inj he)
      simp [hne, hj]

theorem Membership.Spans.addressOf (h : ms.Spans count ip base) (hk : k < count) :
    ms.addressOf ⟨k⟩ = .ok (place ip base.toNat k) := addressOf_of_getElem? (h.entry k hk)

/-- Every member that was not started yet can be started, in whatever order. -/
theorem Seated.startAll (hms : ms.Spans count ip base) (h : Seated ip base.toNat done net)
    (hn : (done ++ ks).Nodup) (hk : ∀ k ∈ ks, k < count) :
    ∃ net', Engine.startAll ms ks net = .ok (ks.map (Engine.fresh ms), net') ∧
      Seated ip base.toNat (done ++ ks) net' := by
  induction ks generalizing done net with
  | nil => exact ⟨net, rfl, by rwa [List.append_nil]⟩
  | cons k ks ih =>
    rw [List.append_cons] at hn ⊢
    have hnew : k ∉ done := fun hmem =>
      (List.nodup_append.1 (List.nodup_append.1 hn).1).2.2 k hmem k (List.mem_singleton.2 rfl) rfl
    obtain ⟨net', hbind, hnext⟩ := h.bind hnew
    obtain ⟨last, hrest, hlast⟩ := ih hnext hn fun j hj => hk j (List.mem_cons_of_mem _ hj)
    refine ⟨last, ?_, hlast⟩
    rw [Engine.startAll, Engine.start_sound (hms.addressOf (hk k (List.mem_cons_self ..))), hbind]
    simp only [Except.map, Except.ok_bind, hrest]
    rfl

theorem Seated.keeps (hms : ms.Spans count ip base) (h : Seated ip base.toNat ks net)
    (hks : ks.Perm (List.range count)) : net.Keeps ms (Sending.received []) where
  bound := by rw [h.bound, hks.length_eq, List.length_range, hms.size]
  cache k a ha := by
    have hk : k < count := by
      have hlt := (List.getElem?_eq_some_iff.1 ha).1
      rwa [← hms.size]
    cases (hms.entry k hk).symm.trans ha
    rw [h.cache, if_pos (hks.mem_iff.2 (List.mem_range.2 hk))]
    rfl

end Starting

section Sending

variable {ms : Membership} {ip : String} {base : UInt16} {count : Nat} {net : Interconnect}
  {caches : Nat → PartitionCache} {s : Sending} {sends : List Sending}

theorem Sending.owner_into (c : PartitionCache) (s : Sending) : (into c s).owner = c.owner := by
  rw [into]
  cases hput : c.put s.token s.id s.batch with
  | ok d => exact PartitionCache.owner_put hput
  | error x => rfl

theorem Sending.owner_received (sends : List Sending) (k : Nat) :
    (received sends k).owner = ⟨k⟩ := by
  rw [received]
  generalize sends.filter (·.target = k) = arrived
  generalize hc : PartitionCache.empty ⟨k⟩ = c
  have hown : c.owner = ⟨k⟩ := by rw [← hc]; rfl
  clear hc
  induction arrived generalizing c with
  | nil => exact hown
  | cons s arrived ih => exact ih _ ((owner_into c s).trans hown)

theorem Sending.received_snoc (sends : List Sending) (s : Sending) :
    received (sends ++ [s]) = Function.update (received sends) s.target
      (into (received sends s.target) s) := by
  funext k
  by_cases hk : k = s.target
  · subst hk
    simp [received]
  · have hne : ¬ s.target = k := fun he => hk he.symm
    simp [received, hk, hne]

/-- A sending ends as the put into its target's cache does, and only that cache is another. -/
theorem Interconnect.Keeps.post (hms : ms.Spans count ip base) (h : net.Keeps ms caches)
    (hs : s.Among ms) (hown : (caches s.target).owner = ⟨s.target⟩) :
    (s.post net).map (fun _ => ()) =
        ((caches s.target).put s.token s.id s.batch).map (fun _ => ()) ∧
      ((s.post net).toOption.getD net).Keeps ms
        (Function.update caches s.target (Sending.into (caches s.target) s)) := by
  obtain ⟨k, -, hsound⟩ := hs.sender
  have ht : s.target < count := hms.size ▸ hs.target
  have hcache := h.cache _ _ (hms.entry _ ht)
  have hpost : s.post net =
      net.put (Membership.place ip base.toNat s.target) ⟨s.target⟩ s.token s.id s.batch :=
    hsound.send_eq (hms.addressOf ht) ..
  cases hput : (caches s.target).put s.token s.id s.batch with
  | error x =>
    have hfails : s.post net = .error x := by
      rw [hpost, ← hown]
      exact put_eq_error hcache hput
    rw [hfails, Sending.into, hput]
    refine ⟨rfl, ?_⟩
    show net.Keeps ms (Function.update caches s.target (caches s.target))
    rwa [Function.update_eq_self]
  | ok d =>
    have hsent : s.post net = .ok (net.withCache (Membership.place ip base.toNat s.target) d) := by
      rw [hpost, ← hown]
      exact put_eq hcache hput
    rw [hsent, Sending.into, hput]
    refine ⟨rfl, ⟨?_, fun j a ha => ?_⟩⟩
    · have hbound : net.endpoints.contains (Membership.place ip base.toNat s.target).endpoint =
          true := FiniteMap.contains_of_find? hcache
      show (net.endpoints.insert _ d).size = ms.size
      rw [FiniteMap.size_insert, if_pos hbound]
      exact h.bound
    · have hj : j < count := by
        have hlt := (List.getElem?_eq_some_iff.1 ha).1
        rwa [← hms.size]
      have hold := h.cache j a ha
      cases (hms.entry j hj).symm.trans ha
      show (net.withCache _ d).endpoints.find? _ = _
      rw [find?_withCache]
      by_cases he : j = s.target
      · subst he
        rw [if_pos rfl, Function.update_self]
        rfl
      · rw [if_neg fun hplace => he (Membership.endpoint_place_inj hplace),
          Function.update_of_ne he, hold]

/-- Whatever is sent, each member's cache holds what was sent to it. -/
theorem Interconnect.Keeps.postAll (hms : ms.Spans count ip base)
    (h : net.Keeps ms (Sending.received [])) (hs : ∀ s ∈ sends, s.Among ms) :
    (Sending.postAll net sends).Keeps ms (Sending.received sends) := by
  induction sends using List.reverseRecOn with
  | nil => exact h
  | append_singleton sends s ih =>
    have hbefore := ih fun s hmem => hs s (List.mem_append_left _ hmem)
    have hafter := hbefore.post hms (hs s (List.mem_append_right _ (List.mem_singleton.2 rfl)))
      (Sending.owner_received ..)
    rw [Sending.received_snoc, Sending.postAll, List.foldl_append]
    exact hafter.2

end Sending

/--
Members at consecutive ports never wrap or collide. Where the last port is a port, each member has
an address of its own and ports in two bytes are ports in numbers; their engines can be started in
any order, and what any of them sends ends as its put into the target's cache does and touches no
other.
-/
theorem members_never_collide (count : Nat) (ip : String) (base : UInt16) (protocol : String)
    (hc : 1 ≤ count) :
    ((∃ ms, Membership.build count ip base.toNat = .ok ms) ↔ base.toNat + count - 1 ≤ 65535) ∧
    (Port.first? base count ≠ none ↔ base.toNat + count - 1 ≤ 65535) ∧
    ∀ ms, Membership.build count ip base.toNat = .ok ms →
      ms.Spans count ip base ∧
      (Port.first? base count).map (List.map UInt16.toNat) =
        some (ms.participants.map Address.port) ∧
      (∀ k net, count ≤ k → ∃ x, Engine.start ⟨k⟩ ms .sound net = .error x) ∧
      ∀ ks : List Nat, ks.Perm (List.range count) → ∃ net,
        Engine.startAll ms ks (.empty protocol) = .ok (ks.map (Engine.fresh ms), net) ∧
        net.boundCount = count ∧
        ∀ sends : List Sending, (∀ s ∈ sends, s.Among ms) →
          (Sending.postAll net sends).Keeps ms (Sending.received sends) ∧
          ∀ s : Sending, s.Among ms →
            (s.post (Sending.postAll net sends)).map (fun _ => ()) =
              ((Sending.received sends s.target).put s.token s.id s.batch).map fun _ => () := by
  have hfits : base.toNat + count - 1 ≤ 65535 ↔ base.toNat + (count - 1) < UInt16.size := by
    rw [UInt16.size]
    omega
  refine ⟨?_, ?_, ?_⟩
  · simp only [Membership.build_eq_ok_iff hc, exists_and_left, exists_eq, and_true,
      Membership.lastPort]
  · rw [hfits]
    constructor
    · intro hsome
      by_contra hlarge
      exact hsome (Port.first?_eq_none (Nat.le_of_not_lt hlarge) (by omega))
    · intro hsmall hnone
      have hports := Port.first?_eq_some hsmall
      rw [hnone] at hports
      cases hports
  · intro ms hms
    have hspans := Membership.spans_of_build hc hms
    refine ⟨hspans, ?_, ?_, ?_⟩
    · obtain ⟨hle, rfl⟩ := (Membership.build_eq_ok_iff hc).1 hms
      rw [Port.first?_eq_some (hfits.1 hle), List.map_map]
      rfl
    · intro k net hk
      rw [Engine.start, hspans.refused k hk]
      exact ⟨_, rfl⟩
    · intro ks hks
      have hnodup : ([] ++ ks).Nodup := hks.nodup_iff.2 List.nodup_range
      obtain ⟨net, hstart, hseated⟩ := (seated_empty ip base.toNat protocol).startAll hspans hnodup
        fun k hk => List.mem_range.1 (hks.mem_iff.1 hk)
      have hkeeps := hseated.keeps hspans hks
      refine ⟨net, hstart, hkeeps.bound.trans hspans.size, fun sends hsends => ?_⟩
      have hall := hkeeps.postAll hspans hsends
      exact ⟨hall, fun s hs => (hall.post hspans hs (Sending.owner_received ..)).1⟩

/-- Two members at the last two ports, of which the second one is started first. -/
theorem members_never_collide_last : 1 ≤ 2 ∧ ∃ ms net, Membership.build 2 "h" 65534 = .ok ms ∧
    Engine.startAll ms [1, 0] (.empty "UCX") = .ok ([.fresh ms 1, .fresh ms 0], net) ∧
    net.boundCount = 2 ∧
    ∃ s : Sending, s.Among ms ∧ s.target = 1 ∧
      (Sending.postAll net [s]).Keeps ms (Sending.received [s]) ∧
      (Sending.received [s] 1).size = 1 ∧ (Sending.received [s] 0).size = 0 := by
  obtain ⟨hbuild, -, hall⟩ := members_never_collide 2 "h" 65534 "UCX" (by decide)
  obtain ⟨ms, hms⟩ := hbuild.2 (by decide)
  obtain ⟨hspans, -, -, hstart⟩ := hall ms hms
  obtain ⟨net, hnet, hbound, hsends⟩ := hstart [1, 0] (by decide)
  have hs : Sending.Among ms ⟨.fresh ms 0, 1, ⟨1⟩, ⟨"message_1"⟩, .empty []⟩ := by
    refine ⟨⟨0, ?_, Engine.isSound_fresh ms 0⟩, ?_⟩
    · rw [hspans.size]
      decide
    · change 1 < ms.size
      rw [hspans.size]
      decide
  obtain ⟨hkeeps, -⟩ := hsends [_] fun s hmem => List.mem_singleton.1 hmem ▸ hs
  exact ⟨by decide, ms, net, hms, hnet, hbound, _, hs, rfl, hkeeps, rfl, rfl⟩

end ShardQuery
