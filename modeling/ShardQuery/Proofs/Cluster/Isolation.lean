import ShardQuery.Proofs.Cluster.Record
import ShardQuery.Proofs.Cluster.Run
import ShardQuery.Proofs.Query.Rowwise

namespace ShardQuery

open Traffic

/-- The part of a query's result that one participant has for it. -/
def Cluster.Gives (c : Cluster) (i : Nat) (sql : String) (b : Batch) : Prop :=
  ∃ e q t, c.engines[i]? = some e ∧ parseQuery sql = .ok q ∧ e.table q.table = .ok t ∧
    q.execute t = .ok b ∧ ∀ n, q.limit = some n → b.size ≤ n

/-- Queries that were begun on a cluster are kept apart, as it is on record. -/
structure Isolated (c : Cluster) (h : History) (l : Live) : Prop where
  /-- No token is handed out twice. -/
  tokens : (h.taken.map Prod.snd).Nodup
  /-- Nor is a message id. -/
  ids : (h.taken.map fun p => p.2.messageId).Nodup
  /-- All participants keep their tables. -/
  engines : l.cluster.engines = c.engines
  /-- A call asks for its own query, under the token and the id that this query took for it. -/
  calls : ∀ o i p ahead r stage, l.call? o i = some ⟨⟨p, .ask ahead r⟩, stage⟩ →
    ∃ t sql, r = .runQuery t t.messageId sql ∧ (h.tokensOf o)[i]? = some t ∧
      h.queries.lookup o = some sql
  /-- No result of a worker is refused, whenever it is delivered. -/
  delivers : ∀ (w : Nat) k job worker, l.links[w]? = some k → k.job = some job →
    l.cluster.workers[w]? = some worker →
      (worker.deliver l.cluster.net job.token job.id job.batch).2 = .queryRan job.token job.id
  /-- A call whose worker has delivered finds what this worker has for its query. -/
  pulls : ∀ o i p ahead r, l.call? o i = some ⟨⟨p, .ask ahead r⟩, .pulling⟩ →
    ∃ sql b, h.queries.lookup o = some sql ∧ (l.cluster.collect r).2 = .ok (.rows b) ∧
      c.Gives i sql b
  /--
  An answer is made of one part of each participant, in the order in which they came, under the
  columns of the first. Where all have these columns, it is their rows as they are.
  -/
  answers : ∀ o a, (o, .ok a) ∈ l.answers →
    ∃ sql part first whole, h.queries.lookup o = some sql ∧
      (h.partsOf o).Perm (List.range c.engines.length) ∧
      (∀ i ∈ h.partsOf o, c.Gives i sql (part i)) ∧ (h.partsOf o).head? = some first ∧
      a = .rows whole ∧
      Batch.join? (part first).schema ((h.partsOf o).map part) = some whole ∧
      ((∀ i ∈ h.partsOf o, (part i).schema = (part first).schema) →
        whole = .concat (part first).schema ((h.partsOf o).map part))

theorem Answered.joined {c : Cluster} {es : Nat → Engine} {h : History}
    (ha : Answered c es h o sql a) : ∃ first whole, (h.partsOf o).head? = some first ∧
      a = .rows whole ∧ Batch.join? (share es sql first).schema
        ((h.partsOf o).map (share es sql)) = some whole := by
  have hcombined := ha.combined
  rw [Cluster.combine, Cluster.batches_rows] at hcombined
  cases hs : h.partsOf o with
  | nil =>
    rw [hs] at hcombined
    cases hcombined
  | cons i is =>
    rw [hs] at hcombined
    simp only [List.map_cons] at hcombined
    split at hcombined
    · next whole hjoin =>
      cases hcombined
      exact ⟨i, whole, rfl, rfl, hjoin⟩
    · cases hcombined

namespace Orderly

variable {c : Cluster} {es : Nat → Engine} {h : History} {l : Live} {cache : PartitionCache}

theorem gives_of_part (hc : c.Hosts es) (hi : i ≤ c.workers.length)
    (hp : part es sql i = .ok b) : c.Gives i sql b := by
  obtain ⟨q, t, hq, ht, hb⟩ := ((es i).prepare_run_eq_ok_iff sql).1 hp
  refine ⟨es i, q, t, ?_, hq, ht, hb, fun n => SelectQuery.size_execute_le hb⟩
  rw [hc.seats.engines, List.getElem?_map, List.getElem?_range (Nat.lt_succ_of_le hi)]
  rfl

theorem link_idle {w : Nat} {k : Link} (hk : (Live.idle c).links[w]? = some k) :
    ∃ p, k = ⟨.fresh p, [], none, []⟩ := by
  obtain ⟨p, -, rfl⟩ := List.mem_map.1 (List.mem_of_getElem? hk)
  exact ⟨p, rfl⟩

theorem not_carries_idle (c : Cluster) (cache : PartitionCache) (t : CorrelationToken) :
    ¬ ((Live.idle c).traffic cache).Carries t := by
  rintro ⟨w, k, hk, ht⟩
  obtain ⟨p, rfl⟩ := link_idle hk
  cases ht

theorem not_reports_idle (c : Cluster) (cache : PartitionCache) (t : CorrelationToken) :
    ¬ ((Live.idle c).traffic cache).Reports t := by
  rintro ⟨w, k, hk, m, hm, -⟩
  obtain ⟨p, rfl⟩ := link_idle hk
  cases hm

theorem accounted_idle (c : Cluster) (es : Nat → Engine) (cache : PartitionCache) :
    Accounted es .empty ((Live.idle c).traffic cache) where
  inbox w k hk m hm := by
    obtain ⟨p, rfl⟩ := link_idle hk
    cases hm
  job w k hk j hj := by
    obtain ⟨p, rfl⟩ := link_idle hk
    cases hj
  once w k hk := by
    obtain ⟨p, rfl⟩ := link_idle hk
    exact List.nodup_nil
  carried t ht := absurd ht (not_carries_idle c cache t)
  held t o i sql p ho := by cases ho

theorem idle (hc : c.Hosts es) : ∃ cache, Orderly c es .empty (.idle c) cache := by
  obtain ⟨cache, a, ha, hcache, howner⟩ := hc.exists_caches
  exact ⟨cache, {
    toNumbered := ⟨List.nodup_nil, fun p hp => (by cases hp), fun _ _ => rfl⟩
    unborn := fun o _ => ⟨rfl, rfl⟩
    numbers := List.nodup_nil
    drafting := by
      intro o d hd
      cases hd
    asking := by
      intro o r hr
      cases hr
    answered := by
      intro p hp
      cases hp
    accounted := accounted_idle c es cache
    future := by
      intro t ht
      obtain ⟨hnone, habandoned⟩ := hc.lacks t ht _ _ hcache
      refine ⟨⟨List.not_mem_nil, habandoned⟩, ?_, not_carries_idle c cache t,
        not_reports_idle c cache t⟩
      rintro ⟨p, hp⟩
      cases hnone.symm.trans hp
    waiting := by
      intro o d hd
      cases hd
    standing := by
      intro o i lc hcall
      cases hcall
    cluster := rfl
    caches := ⟨a, ha, hcache, howner⟩
    links := by simp [Live.idle, Cluster.workerIds]
  }⟩

theorem size_engines (hc : c.Hosts es) : c.engines.length = c.workers.length + 1 := by
  rw [hc.seats.engines, List.length_map, List.length_range]

theorem isolated (hc : c.Hosts es) (ho : Orderly c es h l cache) : Isolated c h l where
  tokens := ho.distinct
  ids := ho.distinct.ids
  engines := by
    rw [Cluster.engines, ho.own_eq, ho.workers_eq]
    rfl
  calls o i p ahead r stage hcall := by
    obtain ⟨_, sql, -, -, ha, hfits⟩ := ho.call_spec hcall
    cases hfits with
    | ask howns => exact ⟨_, sql, rfl, howns, ha.query⟩
  delivers w k job worker hk hj hw := by
    obtain ⟨hlt, rfl⟩ := ho.worker_eq hc hw
    obtain ⟨d, hput, howner, -⟩ := ho.accounted.deliver ho.distinct hk hj
    obtain ⟨m, hm, -⟩ := hc.deliver_eq hlt ho.caches hput howner
    rw [hm]
  pulls o i p ahead r hcall := by
    obtain ⟨t, sql, b, m, d, -, -, hquery, hpart, hcollect, -⟩ := ho.collect_eq hc hcall
    obtain ⟨running, _, -, hi, ha, -⟩ := ho.call_spec hcall
    have hlt := (List.getElem?_eq_some_iff.1 hi).1
    rw [ha.size] at hlt
    exact ⟨sql, b, hquery, by rw [hcollect], gives_of_part hc (Nat.le_of_lt_succ hlt) hpart⟩
  answers o a hmem := by
    obtain ⟨-, hans⟩ := ho.answered _ hmem
    obtain ⟨sql, ha⟩ := hans a rfl
    obtain ⟨first, whole, hfirst, hwhole, hjoin⟩ := ha.joined
    refine ⟨sql, share es sql, first, whole, ha.query, ?_, fun i hi => ?_, hfirst, hwhole, hjoin,
      fun hschema => ?_⟩
    · rw [size_engines hc]
      exact ha.each
    · have hle := Nat.le_of_lt_succ (List.mem_range.1 (ha.each.mem_iff.1 hi))
      exact gives_of_part hc hle (ha.came i hle)
    · rw [Batch.join?_of_schema (List.forall_mem_map.2 hschema)] at hjoin
      exact (Option.some.inj hjoin).symm

end Orderly

namespace Cluster

/--
Queries that are asked at the same time of a cluster that has nothing else under way are kept apart,
whatever the tables of its participants and the order of all that happens.
-/
theorem isolated_queries (hc : c.Hosts es) {events : List Event} (he : ∀ e ∈ events, e.Querying) :
    Isolated c (.record .empty (.idle c) events) ((Live.idle c).steps events) := by
  obtain ⟨cache, hidle⟩ := Orderly.idle hc
  obtain ⟨d, ho⟩ := hidle.record hc he
  exact ho.isolated hc

/-- Two queries of which the second overtakes the first. -/
def crossed : List Event :=
  [.draft "SELECT n FROM t", .draft "SELECT n FROM t LIMIT 1", .issue 1, .issue 0, .issue 1,
    .issue 0, .prepare 0 1, .prepare 1 1, .send 1 1, .own 0 0, .send 0 1, .serve 0, .own 1 0,
    .deliver 0, .serve 0, .deliver 0, .receive 0, .receive 0, .pull 0 1, .pull 1 1, .conclude 1,
    .conclude 0]

theorem isolated_queries_crossed : ∃ c₀ c, Cluster.run .default 1 [] .empty = .ok c₀ ∧
    c₀.Runs [(c₀, .perform (.create "t" counted) (.ok .done))] c ∧
    ((Live.idle c).steps crossed).answers.map Prod.fst = [1, 0] ∧
    Isolated c (.record .empty (.idle c) crossed) ((Live.idle c).steps crossed) := by
  have hanswers : ((Cluster.run .default 1 [] .empty).map fun c =>
      ((Live.idle (c.perform (.create "t" counted)).1).steps crossed).answers.map
        Prod.fst).toOption = some [1, 0] := by decide +kernel
  obtain ⟨c₀, h⟩ := exists_run
  rw [h] at hanswers
  obtain ⟨hc₀, -⟩ := hosts_of_run h
  have hr := Runs.cons (.perform (hc₀.perform_create "t" counted)) (.nil _)
  obtain ⟨es, hc⟩ := hc₀.runs hr
  exact ⟨c₀, _, h, hr, Option.some.inj hanswers,
    isolated_queries hc (by simp [crossed, Event.Querying])⟩

end Cluster

end ShardQuery
