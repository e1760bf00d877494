import ShardQuery.Proofs.Cluster.Entry
import ShardQuery.Proofs.Cluster.Run

namespace ShardQuery

open CacheRequest

def Live.trace (l : Live) : List Event → List (Event × CacheRequest)
  | [] => []
  | e :: events => (l.requests e).map (e, ·) ++ (l.step e).trace events

structure Cleared (c : Cluster) (h : History) (trace : List (Event × CacheRequest)) (l : Live) :
    Prop where
  /-- The coordinator's cache is as it is after these requests. -/
  served : c.Caches l.cluster.net (.serveAll (.empty .coordinator) (trace.map Prod.snd))
  /-- Nothing was pulled before it was written. -/
  inOrder : InOrder (trace.map Prod.snd)
  /-- No message id is handed out twice. -/
  ids : (h.taken.map fun p => p.2.messageId).Nodup
  /-- A call for a query is under a token that this query took. -/
  calls : ∀ o i p ahead t id sql stage,
    l.call? o i = some ⟨⟨p, .ask ahead (.runQuery t id sql)⟩, stage⟩ →
      id = t.messageId ∧ h.Owns t o i
  /-- Whatever the order of the requests, nothing is under an id of a query that was answered. -/
  cleared : ∀ order : List (Event × CacheRequest), order.Perm trace →
    InOrder (order.map Prod.snd) → ∀ p ∈ l.answers, ∀ t ∈ h.tokensOf p.1,
      (PartitionCache.serveAll (.empty .coordinator) (order.map Prod.snd)).contains t.messageId =
        false
  /-- Whatever the order of the requests, a mark drops only what its own query gave up. -/
  dropped : ∀ before e token id batch after,
    List.Perm (before ++ (e, .put token id batch) :: after) trace →
    (PartitionCache.serveAll (.empty .coordinator) (before.map Prod.snd)).isAbandoned id = true →
      ∃ o i, id = token.messageId ∧ h.Owns token o i ∧
        ∀ e', (e', .discard id) ∈ trace → e' = .conclude o
  /-- No other cache drops anything. -/
  unmarked : ∀ e d, l.cluster.net.endpoints.find? e = some d → d.owner ≠ .coordinator →
    d.abandoned = []

variable {ms : Membership} {n : Nat} {h : History} {trace : List (Event × CacheRequest)}
  {l : Live}

theorem Cluster.Launching.staffed {c : Cluster} (hc : c.Launching c.workers.length) :
    { c with phase := .ready }.Staffed c.members c.workers.length (.empty .coordinator) where
  own := by
    show c.own.IsSound _ _
    rw [hc.own]
    exact Engine.isSound_fresh ..
  size := rfl
  worker w worker hw := by
    have hw' : c.workers[w]? = some worker := hw
    have hlt := (List.getElem?_eq_some_iff.1 hw').1
    rw [hc.workers, List.getElem?_map, List.getElem?_range hlt] at hw'
    cases hw'
    exact ⟨_, if_pos hlt, Engine.isSound_fresh ..⟩
  net := {
    own := by
      obtain ⟨a, ha, d, hd, ho⟩ := hc.binds 0 (Nat.zero_le _)
      obtain ⟨p, rfl⟩ := hc.quiet _ d hd
      cases ho
      exact ⟨a, ha, hd⟩
    owner := rfl
    reach := hc.binds
    unmarked := by
      intro e d hd _
      obtain ⟨p, rfl⟩ := hc.quiet e d hd
      rfl
  }

/-- At first nothing is on its way, and nothing was asked of the cache. -/
theorem Ledger.ordered_idle {c : Cluster} (hn : c.workers.length < UInt32.size) :
    Ledger.Ordered ⟨(Live.idle c).links, []⟩ ∧ Ledger.ids ⟨(Live.idle c).links, []⟩ = [] := by
  have hlink : ∀ (w : Nat) k, (Live.idle c).links[w]? = some k →
      k = ⟨.fresh ⟨w + 1⟩, [], none, []⟩ := by
    intro w k hk
    rw [Live.idle, List.getElem?_map, Option.map_eq_some_iff] at hk
    obtain ⟨p, hp, rfl⟩ := hk
    rw [Cluster.workerIds_eq hn, List.getElem?_map, Option.map_eq_some_iff] at hp
    obtain ⟨i, hi, rfl⟩ := hp
    obtain ⟨-, rfl⟩ := List.getElem?_eq_some_iff.1 hi
    rw [List.getElem_range]
  have hids : Ledger.ids ⟨(Live.idle c).links, []⟩ = [] := by
    refine List.append_eq_nil_iff.2 ⟨List.flatMap_eq_nil_iff.2 fun k hk => ?_, rfl⟩
    obtain ⟨w, hw⟩ := List.getElem?_of_mem hk
    rw [hlink w k hw]
    rfl
  refine ⟨⟨?_, inOrder_nil, ?_, fun t id batch hm => (by cases hm), ?_, ?_⟩, hids⟩
  · rw [hids]
    exact List.nodup_nil
  · intro w k hk
    rw [hlink w k hk]
    exact ⟨fun m hm => (by cases hm), fun j hj => (by cases hj)⟩
  · intro w k hk
    rw [hlink w k hk]
    rfl
  · intro w k hk seq hseq
    rw [hlink w k hk] at hseq
    cases hseq

namespace Tended

/-- Whatever happens next, it goes as the record says. -/
theorem note (hn : n < UInt32.size) (ht : Tended ms n h trace l) {e : Event} (hstop : e ≠ .stop)
    (hquery : ∀ sql, e ≠ .start (.query sql)) :
    Tended ms n (h.note l e) (trace ++ (l.requests e).map (e, ·)) (l.step e) := by
  cases e with
  | start op => exact (ht.start fun sql he => hquery sql (congrArg Event.start he)).silent _
  | draft sql => exact (ht.draft sql).silent _
  | issue o => exact (ht.issue hn o).silent _
  | prepare o i => exact (ht.prepare o i).silent _
  | own o i =>
    have hnote : ∃ ps, h.note l (.own o i) = { h with parts := ps } := by
      rw [History.note]
      split <;> exact ⟨_, rfl⟩
    obtain ⟨ps, hnote⟩ := hnote
    rw [hnote]
    exact ((ht.own o i).withParts ps).silent _
  | send o i => exact (ht.send o i).silent _
  | serve w => exact (ht.serve w).silent _
  | deliver w => exact ht.deliver w
  | receive w => exact (ht.receive w).silent _
  | pull o i =>
    have hnote : ∃ ps, h.note l (.pull o i) = { h with parts := ps } := by
      rw [History.note]
      split
      · split <;> exact ⟨_, rfl⟩
      · exact ⟨_, rfl⟩
    obtain ⟨ps, hnote⟩ := hnote
    rw [hnote]
    exact (ht.pull o i).withParts ps
  | close w => exact (ht.close w).silent _
  | expire o i => exact (ht.expire o i).silent _
  | conclude o => exact ht.conclude o
  | stray k => exact ht.stray k
  | stop => exact absurd rfl hstop
  | tick ms' => exact (ht.tick ms').silent _

theorem issues (hn : n < UInt32.size) (ht : Tended ms n h trace l) (o k : Nat) :
    Tended ms n (h.notes l (List.replicate k (.issue o))) trace
      (l.steps (List.replicate k (.issue o))) := by
  induction k generalizing h l with
  | zero => exact ht
  | succ k ih => exact ih (ht.issue hn o)

theorem parts (hn : n < UInt32.size) (ht : Tended ms n h trace l) {e : Event} (hstop : e ≠ .stop) :
    Tended ms n (h.notes l (e.parts l)) (trace ++ (l.requests e).map (e, ·)) (l.step e) := by
  by_cases hquery : ∃ sql, e = .start (.query sql)
  · obtain ⟨sql, rfl⟩ := hquery
    rw [← Live.steps_parts]
    exact ((ht.draft sql).issues hn l.begun (l.cluster.workers.length + 1)).silent _
  · have hparts : e.parts l = [e] := by
      cases e with
      | start op =>
        cases op with
        | query sql => exact absurd ⟨sql, rfl⟩ hquery
        | _ => rfl
      | _ => rfl
    rw [hparts]
    exact ht.note hn hstop fun sql he => hquery ⟨sql, he⟩

theorem record (hn : n < UInt32.size) (ht : Tended ms n h trace l) {events : List Event}
    (he : ∀ e ∈ events, e ≠ .stop) :
    Tended ms n (h.record l events) (trace ++ l.trace events) (l.steps events) := by
  induction events generalizing h l trace with
  | nil =>
    rw [Live.trace, List.append_nil]
    exact ht
  | cons e events ih =>
    have hnext := ih (ht.parts hn (he e (List.mem_cons_self ..))) fun e' he' =>
      he e' (List.mem_cons_of_mem _ he')
    rw [List.append_assoc] at hnext
    exact hnext

/-- A cluster that was just started has nothing under way. -/
theorem idle {c : Cluster} (hc : c.Launching c.workers.length) :
    Tended c.members c.workers.length .empty [] (.idle { c with phase := .ready }) := by
  obtain ⟨hordered, hids⟩ := Ledger.ordered_idle hc.narrow
  have hunused : ∀ id, id ∉ ((Live.idle { c with phase := .ready }).ledger []).ids := by
    intro id hm
    have hm : id ∈ Ledger.ids ⟨(Live.idle c).links, []⟩ := hm
    rw [hids] at hm
    cases hm
  exact {
    staffed := hc.staffed
    links := by simp [Live.idle, Cluster.workerIds]
    ordered := hordered
    strays := fun id hid => by cases hid
    given := fun e id hm => by cases hm
    distinct := List.nodup_nil
    issued := fun p hp => by cases hp
    future := fun t _ => hunused _
    first := fun t o _ => hunused _
    untaken := fun o _ => rfl
    numbers := List.nodup_nil
    drafting := fun o d hd => by cases hd
    tending := fun o r hr => by cases hr
    answered := fun p hp => by cases hp
    holds := fun o i lc hcall => by cases hcall
    apart := fun o i lc o' i' lc' seq hcall => by cases hcall
  }

theorem mem_map_of_perm {order : List (Event × CacheRequest)} (ho : order.Perm trace)
    {r : CacheRequest} : r ∈ order.map Prod.snd ↔ r ∈ trace.map Prod.snd :=
  (ho.map Prod.snd).mem_iff

theorem nodup_written (ht : Tended ms n h trace l) : (written (trace.map Prod.snd)).Nodup :=
  (List.nodup_append.1 ht.ordered.once).2.1

theorem cleared {c : Cluster} (ht : Tended c.members n h trace l) : Cleared c h trace l where
  served := by
    obtain ⟨a, ha, hc⟩ := ht.staffed.net.own
    exact ⟨a, ha, hc, ht.staffed.net.owner⟩
  inOrder := ht.ordered.inOrder
  ids := ht.distinct.ids
  calls o i p ahead t id sql stage hcall := by
    obtain ⟨w, sql', rfl, howns, he⟩ := ht.poses hcall (t := t) rfl
    cases he
    exact ⟨rfl, howns⟩
  cleared order hperm horder p hp t htoken := by
    obtain ⟨i, howns⟩ := List.getElem?_of_mem htoken
    have hset := (ht.answered p hp).2 t i howns
    have hwritten := (hperm.map Prod.snd).filterMap written?
    refine PartitionCache.contains_serveAll_of_settled rfl (hwritten.nodup_iff.2 ht.nodup_written)
      (fun hid => ?_) horder
    refine (hset (Ledger.mem_ids_of_written (hwritten.mem_iff.1 hid))).imp ?_ ?_
    · exact (mem_map_of_perm hperm).2
    · exact (mem_map_of_perm hperm).2
  dropped before e token id batch after hperm hmark := by
    have hput : .put token id batch ∈ trace.map Prod.snd := by
      rw [← mem_map_of_perm hperm, List.map_append]
      exact List.mem_append_right _ (List.mem_cons_self ..)
    obtain rfl := ht.ordered.puts token id batch hput
    rcases PartitionCache.discard_of_isAbandoned_serveAll hmark with hmark | hdiscard
    · cases hmark
    · have hmem : .discard token.messageId ∈ trace.map Prod.snd := by
        rw [← mem_map_of_perm hperm, List.map_append]
        exact List.mem_append_left _ hdiscard
      obtain ⟨⟨e₀, _⟩, hin, rfl⟩ := List.mem_map.1 hmem
      obtain ⟨o, t, i, -, howns, hid⟩ := ht.given e₀ _ hin
      obtain rfl := CorrelationToken.messageId_injective hid
      refine ⟨o, i, rfl, howns, fun e' he' => ?_⟩
      obtain ⟨o', t', i', rfl, howns', hid'⟩ := ht.given e' _ he'
      obtain rfl := CorrelationToken.messageId_injective hid'
      obtain ⟨rfl, -⟩ := howns.unique ht.distinct howns'
      rfl
  unmarked := ht.staffed.net.unmarked

end Tended

namespace Cluster

/--
On a cluster that was started without faults, whatever is asked of it at the same time, and whenever
a call is given up: once a query was answered, the coordinator's cache has nothing of it, in
whatever order it serves its requests.
-/
theorem cleared_queries (h : Cluster.run s n [] store = .ok c) {events : List Event}
    (he : ∀ e ∈ events, e ≠ .stop) :
    Cleared c (.record .empty (.idle c) events) ((Live.idle c).trace events)
      ((Live.idle c).steps events) := by
  obtain ⟨d, hlaunching, -, rfl⟩ := launching_of_run h
  exact Tended.cleared (c := { d with phase := .ready })
    ((Tended.idle hlaunching).record hlaunching.narrow he)

/-- A query that is given up before its worker delivers, and another one after it. -/
def belated : List Event :=
  [.start (.create "t" counted), .prepare 0 0, .send 0 0, .serve 0, .receive 0, .conclude 0,
    .start (.query "SELECT n FROM t"), .prepare 1 1, .own 1 0, .send 1 1, .serve 0, .expire 1 1,
    .conclude 1, .start (.query "SELECT n FROM t"), .prepare 2 1, .own 2 0, .send 2 1, .deliver 0,
    .receive 0, .serve 0, .deliver 0, .receive 0, .pull 2 1, .conclude 2]

theorem cleared_queries_belated : ∃ c, Cluster.run .default 1 [] .empty = .ok c ∧
    ((Live.idle c).steps belated).answers.map Prod.fst = [0, 1, 2] ∧
    (∃ batch, ((Live.idle c).trace belated).map Prod.snd =
      [.discard ⟨"message_3"⟩, .put ⟨3⟩ ⟨"message_3"⟩ batch, .put ⟨5⟩ ⟨"message_5"⟩ batch,
        .pull ⟨"message_5"⟩]) ∧
    Cleared c (.record .empty (.idle c) belated) ((Live.idle c).trace belated)
      ((Live.idle c).steps belated) := by
  have hruns : ((Cluster.run .default 1 [] .empty).map fun c =>
      (((Live.idle c).steps belated).answers.map Prod.fst,
        ((Live.idle c).trace belated).map Prod.snd)).toOption = some ([0, 1, 2],
          [.discard ⟨"message_3"⟩, .put ⟨3⟩ ⟨"message_3"⟩ ⟨counted.schema, [[.int 3]]⟩,
            .put ⟨5⟩ ⟨"message_5"⟩ ⟨counted.schema, [[.int 3]]⟩, .pull ⟨"message_5"⟩]) := by
    decide +kernel
  obtain ⟨c, h⟩ := exists_run
  rw [h] at hruns
  obtain ⟨hanswers, htrace⟩ := Prod.mk.inj (Option.some.inj hruns)
  exact ⟨c, h, hanswers, ⟨_, htrace⟩, cleared_queries h (by simp [belated])⟩

end Cluster

end ShardQuery
