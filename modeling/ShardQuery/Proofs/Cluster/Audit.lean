import ShardQuery.Proofs.Cluster.Charging

namespace ShardQuery

namespace Live

variable {l m : Live} {d : Draft}

/-! ### Queries that are sent out at once -/

theorem drafts_issues (hm : m.drafts = []) (o k : Nat) :
    (m.steps (List.replicate k (.issue o))).drafts = [] := by
  induction k generalizing m with
  | zero => exact hm
  | succ k ih =>
    have hissue : m.issue o = m := by
      rw [issue, hm]
      rfl
    rw [List.replicate_succ]
    refine ih ?_
    rw [step, hissue]
    exact hm

/-- A query takes a token at each step until there is one for each worker, and then it goes out. -/
theorem drafts_issue (hm : m.drafts = [(o, d)]) : (m.issue o).drafts =
    if d.tokens.length < m.cluster.workers.length then
      [(o, { d with tokens := d.tokens ++ [m.cluster.tokens.next.1] })]
    else [] := by
  have hlookup : m.drafts.lookup o = some d := by
    rw [hm]
    exact List.lookup_cons_self
  simp only [issue, hlookup]
  split
  · simp only [hm, List.map_cons, List.map_nil, if_true]
  · simp only [hm, ne_eq, not_true_eq_false, decide_false, Bool.false_eq_true, not_false_iff,
      List.filter_cons_of_neg, List.filter_nil]

theorem drafts_issued (hm : m.drafts = [(o, d)]) (hn : m.Numbered)
    (hk : d.tokens.length + k = m.cluster.workers.length) :
    (m.steps (List.replicate (k + 1) (.issue o))).drafts = [] := by
  induction k generalizing m d with
  | zero =>
    have hdone : ¬ d.tokens.length < m.cluster.workers.length := by omega
    exact (drafts_issue hm).trans (if_neg hdone)
  | succ k ih =>
    have hlt : d.tokens.length < m.cluster.workers.length := by omega
    have hissue := spends_issue hn o
    refine ih ((drafts_issue hm).trans (if_pos hlt)) hissue.numbered ?_
    rw [step, hissue.size, List.length_append, List.length_singleton]
    omega

theorem drafts_query (hn : l.Numbered) (hl : l.drafts = []) (sql : String) :
    (l.start (.query sql)).drafts = [] := by
  have hdraft := spends_draft hn sql
  have hdrafts : (l.draft sql).drafts = [] ∨
      ∃ p, (l.draft sql).drafts = [(l.begun, ⟨sql, p, []⟩)] := by
    rw [draft, Cluster.draft]
    cases l.cluster.ready "sql" with
    | error e => exact .inl hl
    | ok _ =>
      cases l.cluster.own.prepare sql with
      | error x => exact .inl hl
      | ok p =>
        refine .inr ⟨p, ?_⟩
        show l.drafts ++ _ = _
        rw [hl]
        rfl
  rw [start_query]
  rcases hdrafts with hnone | ⟨p, hone⟩
  · exact drafts_issues hnone ..
  · refine drafts_issued hone hdraft.numbered ?_
    rw [hdraft.size]
    exact Nat.zero_add _

theorem drafts_step (hn : l.Numbered) (hl : l.drafts = []) (he : ∀ sql, e ≠ .draft sql) :
    (l.step e).drafts = [] := by
  have hwork : e.isWork = true → (∀ o, e ≠ .conclude o) → (l.step e).drafts = [] :=
    fun h hc => (goes hn.running h hc).drafts.trans hl
  cases e with
  | start op =>
    cases hop : op.isQuery with
    | false =>
      show (l.start op).drafts = []
      rw [start_eq l hop]
      split <;> exact hl
    | true =>
      cases op with
      | query sql => exact drafts_query hn hl sql
      | _ => cases hop
  | draft sql => exact absurd rfl (he sql)
  | issue o => exact drafts_issues hl o 1
  | expire o i => exact (l.goes_expire o i).drafts.trans hl
  | conclude o =>
    show (l.conclude o).drafts = []
    rcases l.conclude_cases o with h | ⟨r, phase, own, net, -, ⟨a, h⟩ | ⟨undo, a, -, h⟩⟩ <;>
    · rw [h]
      exact hl
  | stop =>
    show l.stop.drafts = []
    rw [stop]
    split <;> exact hl
  | _ => exact hwork rfl fun _ => Event.noConfusion

theorem drafts_steps (hn : l.Numbered) (hsize : l.cluster.members.size = n + 1)
    (hlen : l.cluster.workers.length = n) (hl : l.drafts = []) {events : List Event}
    (he : ∀ sql, Event.draft sql ∉ events) : (l.steps events).drafts = [] := by
  induction events generalizing l with
  | nil => exact hl
  | cons e events ih =>
    have hstep := spends_step hn (by rw [hsize, hlen]) e
    refine ih hstep.numbered (by rw [hstep.members, hsize]) (hstep.size.trans hlen) ?_ ?_
    · refine drafts_step hn hl fun sql h => he sql ?_
      rw [h]
      exact List.mem_cons_self ..
    · exact fun sql h => he sql (List.mem_cons_of_mem _ h)

/-- The ids that a run of events sends out, each as often as it does. -/
def sentIds (l : Live) (events : List Event) : List MessageId :=
  (l.sent events).filterMap Request.issuedId?

/-- The account of the tokens of `n` workers after a run of events. -/
structure Audited (l : Live) (n : Nat) (events : List Event) : Prop where
  size : (l.steps events).cluster.workers.length = n
  /-- A query that was prepared and is not sent out yet has tokens still to take. -/
  account : (l.steps events).issued + (l.steps events).owed = l.charges n events
  /-- There is no such query where each takes all its tokens as it begins. -/
  whole : (∀ sql, Event.draft sql ∉ events) → (l.steps events).issued = l.charges n events
  distinct : (l.sentIds events).Nodup
  taken : ∀ id ∈ l.sentIds events, ∃ k, 1 ≤ k ∧ k ≤ (l.steps events).issued ∧
    id = (CorrelationToken.mk k).messageId

/-- A cluster that starts its workers has no id at hand. -/
structure Unspent (l : Live) : Prop where
  numbered : l.Numbered
  issued : l.issued = 0
  drafts : l.drafts = []
  unsent : l.unsentIds = []

theorem unspent_launch (hc : c.tokens = .fresh) : (idle c).launch.Unspent where
  numbered :=
    ⟨List.nodup_singleton 0, fun o ho => (List.mem_singleton.1 ho).symm ▸ Nat.zero_lt_one⟩
  issued := congrArg TokenIssuer.issued hc
  drafts := rfl
  unsent := by
    show List.flatMap _ [_] = _
    rw [List.flatMap_singleton, unsentIds_fresh]
    exact Cluster.unissued_map (fun _ => rfl) _

theorem Unspent.audited (h : l.Unspent) (hsize : l.cluster.members.size = n + 1)
    (hlen : l.cluster.workers.length = n) (events : List Event) : l.Audited n events := by
  have hspends := spends_steps h.numbered hsize hlen events
  have hdrafted : l.draftedIds = [] := by
    rw [draftedIds, h.drafts]
    rfl
  have howed : l.owed = 0 := by
    rw [owed, h.drafts]
    rfl
  have hcount : ∀ id, (l.sentIds events).count id ≤
      (freshIds 0 (l.steps events).issued).count id := by
    intro id
    have hspent := hspends.spent id
    rw [h.unsent, hdrafted, h.issued, List.count_nil] at hspent
    rw [sentIds]
    omega
  have haccount := hspends.tokens
  rw [h.issued, howed, Nat.add_zero, Nat.zero_add] at haccount
  exact {
    size := hspends.size.trans hlen
    account := haccount
    whole := by
      intro he
      have hdrafts := drafts_steps h.numbered hsize hlen h.drafts he
      rw [← haccount, owed, hdrafts]
      rfl
    distinct := by
      apply List.nodup_iff_count_le_one.2
      intro id
      exact (hcount id).trans (List.nodup_iff_count_le_one.1 (nodup_freshIds ..) id)
    taken := by
      intro id hid
      have hpos := Nat.lt_of_lt_of_le (List.count_pos_iff.2 hid) (hcount id)
      exact mem_freshIds_iff.1 (List.count_pos_iff.1 hpos) }

/--
The tokens that a cluster has taken are the number of its workers for each table that was split
while it was ready, one more than that for each query that could be prepared, and one for each query
that could not; and no id goes out in two requests.
-/
theorem audited_steps (h : Cluster.create s n conducts files = .ok c) (events : List Event) :
    (idle c).launch.Audited n events := by
  obtain ⟨ms, hms, h⟩ := Except.bind_eq_ok_iff.1 h
  obtain ⟨⟨own, net⟩, -, h⟩ := Except.bind_eq_ok_iff.1 h
  have hc := Except.ok.inj h
  have hunspent : (idle c).launch.Unspent := unspent_launch (by rw [← hc])
  refine hunspent.audited ?_ ?_ events
  · show c.members.size = n + 1
    rw [← hc]
    exact Membership.length_build hms
  · show c.workers.length = n
    rw [← hc]
    exact List.length_replicate

/-- A table, a query on it of which one request is sent before the workers end, one that cannot be
prepared, and one that is refused. -/
def mixed : List Event :=
  [.prepare 0 0, .send 0 0, .serve 0, .receive 0, .prepare 0 1, .send 0 1, .serve 1, .receive 1,
    .conclude 0, .start (.create "t" Cluster.counted), .prepare 1 0, .send 1 0, .serve 0,
    .receive 0, .prepare 1 1, .send 1 1, .serve 1, .receive 1, .conclude 1,
    .start (.query "SELECT n FROM t"), .prepare 2 1, .send 2 1, .start (.query "SELECT x FROM t"),
    .stop, .start (.query "SELECT n FROM t"), .prepare 2 2, .send 2 2]

theorem audited_steps_mixed : ∃ c, Cluster.create .default 2 [] .empty = .ok c ∧
    ((idle c).launch.steps mixed).issued = 2 + 3 + 1 ∧
    (idle c).launch.sentIds mixed = [⟨"message_1"⟩, ⟨"message_2"⟩, ⟨"message_4"⟩] ∧
    (idle c).launch.Audited 2 mixed := by
  have hrun : ((Cluster.create .default 2 [] .empty).map fun c =>
      (((idle c).launch.steps mixed).issued, (idle c).launch.sentIds mixed)).toOption =
      some (2 + 3 + 1, [⟨"message_1"⟩, ⟨"message_2"⟩, ⟨"message_4"⟩]) := by
    decide +kernel
  cases h : Cluster.create .default 2 [] .empty with
  | error e =>
    rw [h] at hrun
    cases hrun
  | ok c =>
    rw [h] at hrun
    obtain ⟨hissued, hsent⟩ := Prod.mk.inj (Option.some.inj hrun)
    exact ⟨c, rfl, hissued, hsent, audited_steps h mixed⟩

end Live

end ShardQuery
