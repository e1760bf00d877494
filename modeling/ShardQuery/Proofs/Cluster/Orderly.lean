import ShardQuery.Proofs.Cluster.Inquiry

namespace ShardQuery

open Traffic

def Live.traffic (l : Live) (cache : PartitionCache) : Traffic := ⟨l.links, l.strays, cache⟩

/-- Every query is on record while it takes its tokens, while its calls go on and once answered. -/
structure Orderly.Queries (c : Cluster) (es : Nat → Engine) (h : History) (l : Live) : Prop where
  unborn : ∀ o, l.begun ≤ o → h.queries.lookup o = none ∧ h.partsOf o = []
  numbers : (l.running.map Prod.fst).Nodup
  drafting : ∀ o d, l.drafts.lookup o = some d →
    Drafting c es h o d ∧ l.op? o = none ∧ ∀ p ∈ l.answers, p.1 ≠ o
  asking : ∀ o r, l.op? o = some r →
    (∃ sql, Asking c es h o sql r) ∧ ∀ p ∈ l.answers, p.1 ≠ o
  answered : ∀ p ∈ l.answers, p.1 < l.begun ∧
    ∀ a, p.2 = .ok a → ∃ sql, Answered c es h p.1 sql a

/-- What is on its way under a token is what the stage of its call asks for. -/
structure Orderly.Standings (es : Nat → Engine) (h : History) (l : Live) (cache : PartitionCache) :
    Prop where
  accounted : Accounted es h (l.traffic cache)
  future : ∀ t, l.cluster.tokens.issued < t.number → (l.traffic cache).Untouched t
  waiting : ∀ o d, l.drafts.lookup o = some d → ∀ t ∈ d.tokens, (l.traffic cache).Untouched t
  standing : ∀ o i lc, l.call? o i = some lc → ∀ t, lc.call.token? = some t →
    (l.traffic cache).Stands t lc.stage

/-- A cluster at work on queries alone, as it is on record. -/
structure Orderly (c : Cluster) (es : Nat → Engine) (h : History) (l : Live)
    (cache : PartitionCache) : Prop extends h.Numbered l.cluster.tokens.issued l.begun,
    Orderly.Queries c es h l, Orderly.Standings es h l cache where
  cluster : l.cluster = { c with net := l.cluster.net, tokens := l.cluster.tokens }
  caches : c.Caches l.cluster.net cache
  links : l.links.length = c.workers.length

theorem Fits.owns {es : Nat → Engine} {h : History} (hf : Fits es h o sql i call)
    (ht : call.token? = some t) : h.Owns t o i := by
  cases hf with
  | own => cases ht
  | ask ho =>
    cases ht
    exact ho

/-- The record of the queries after one of them took a token: it is new, or it was there. -/
structure History.Adds (h : History) (o : Nat) (qs : List (Nat × String)) : Prop where
  others : ∀ n, n ≠ o → qs.lookup n = h.queries.lookup n
  own : (h.queries.lookup o = none ∧ h.tokensOf o = []) ∨ qs.lookup o = h.queries.lookup o

namespace History.Adds

variable {h : History} {qs : List (Nat × String)}

theorem lookup (ha : h.Adds o qs) (hn : h.queries.lookup n = some sql) :
    qs.lookup n = some sql := by
  by_cases hno : n = o
  · subst hno
    rcases ha.own with ⟨hq, -⟩ | hq
    · cases hq.symm.trans hn
    · exact hq.trans hn
  · exact (ha.others n hno).trans hn

theorem lookup_of_owns (ha : h.Adds o qs) (hn : h.Owns t n i) :
    qs.lookup n = h.queries.lookup n := by
  by_cases hno : n = o
  · subst hno
    rcases ha.own with ⟨-, ht⟩ | hq
    · rw [History.Owns, ht] at hn
      cases hn
    · exact hq
  · exact ha.others n hno

end History.Adds

namespace Orderly

variable {c : Cluster} {es : Nat → Engine} {h : History} {l : Live} {cache d : PartitionCache}
  {cluster : Cluster} {net : Interconnect} {links : List Link} {ids : List MessageId}
  {lc : LiveCall} {r : Running} {f : Running → Running} {ps : List (Nat × Nat)}

theorem call_spec (ho : Orderly c es h l cache) (hcall : l.call? o i = some lc) :
    ∃ r sql, l.op? o = some r ∧ r.calls[i]? = some lc ∧ Asking c es h o sql r ∧
      Fits es h o sql i lc.call := by
  obtain ⟨r, hr, hi⟩ := Live.call?_eq_some_iff.1 hcall
  obtain ⟨⟨sql, ha⟩, -⟩ := ho.asking o r hr
  exact ⟨r, sql, hr, hi, ha, ha.fits i lc hi⟩

theorem owns_of_call (ho : Orderly c es h l cache) (hcall : l.call? o i = some lc)
    (ht : lc.call.token? = some t) : h.Owns t o i := by
  obtain ⟨_, _, -, -, -, hfits⟩ := ho.call_spec hcall
  exact hfits.owns ht

/-- A call is not under the token that another has. -/
theorem token?_ne_of_owns (ho : Orderly c es h l cache) (hcall : l.call? o i = some lc)
    (hn : h.Owns t n j) (hne : ¬ (n = o ∧ j = i)) : lc.call.token? ≠ some t :=
  fun ht => hne (hn.unique ho.distinct (ho.owns_of_call hcall ht))

/-- What is on its way may change, as long as no call notices. -/
theorem withTraffic (ho : Orderly c es h l cache) (hcaches : c.Caches net d)
    (hlinks : links.length = c.workers.length) (hacc : Accounted es h ⟨links, ids, d⟩)
    (hpass : ∀ t s, (l.traffic cache).Stands t s → Stands ⟨links, ids, d⟩ t s) :
    Orderly c es h { l with cluster := { l.cluster with net }, links, strays := ids } d where
  toNumbered := ho.toNumbered
  unborn := ho.unborn
  numbers := ho.numbers
  drafting := ho.drafting
  asking := ho.asking
  answered := ho.answered
  accounted := hacc
  future t ht := hpass t .fresh (ho.future t ht)
  waiting o d hd t ht := hpass t .fresh (ho.waiting o d hd t ht)
  standing o i lc hcall t ht := hpass t _ (ho.standing o i lc hcall t ht)
  cluster := congrArg (fun c : Cluster => { c with net }) ho.cluster
  caches := hcaches
  links := hlinks

section ModifyOp

theorem Queries.modifyOp (hq : Queries c es h l) (hr : l.op? o = some r)
    (hps : ∀ n, n ≠ o → History.only n ps = h.partsOf n)
    (hask : ∀ sql, Asking c es h o sql r → Asking c es { h with parts := ps } o sql (f r)) :
    Queries c es { h with parts := ps } { l.modifyOp o f with cluster, links, strays := ids } := by
  obtain ⟨⟨sql, ha⟩, hopen⟩ := hq.asking o r hr
  exact {
    unborn := by
      intro n hn
      obtain ⟨hquery, hparts⟩ := hq.unborn n hn
      refine ⟨hquery, (hps n ?_).trans hparts⟩
      rintro rfl
      cases hquery.symm.trans ha.query
    numbers := by
      have hnumbers := hq.numbers
      rw [← Live.numbers_modifyOp l o f] at hnumbers
      exact hnumbers
    drafting := by
      intro n d hd
      obtain ⟨hdraft, hnone, hans⟩ := hq.drafting n d hd
      have hne : n ≠ o := by
        rintro rfl
        cases hnone.symm.trans hr
      refine ⟨hdraft.mono hdraft.query rfl (hps n hne), ?_, hans⟩
      exact (Live.op?_modifyOp l o f n).trans (by rw [if_neg hne, hnone])
    asking := by
      intro n r' hr'
      have hop := (Live.op?_modifyOp l o f n).symm.trans hr'
      by_cases hne : n = o
      · subst hne
        rw [if_pos rfl, hr] at hop
        cases hop
        exact ⟨⟨sql, hask sql ha⟩, hopen⟩
      · rw [if_neg hne] at hop
        obtain ⟨⟨sql', ha'⟩, hopen'⟩ := hq.asking n r' hop
        exact ⟨⟨sql', ha'.mono ha'.query (fun _ _ _ hn => hn) (hps n hne)⟩, hopen'⟩
    answered := by
      intro p hp
      obtain ⟨hlt, hans⟩ := hq.answered p hp
      refine ⟨hlt, fun a he => ?_⟩
      obtain ⟨sql', ha'⟩ := hans a he
      exact ⟨sql', ha'.mono ha'.query (hps p.1 (hopen p hp))⟩
  }

theorem standings_modifyOp (ho : Orderly c es h l cache) (hcall : l.call? o i = some lc)
    {s : Stage} (hf : ∀ r, (f r).calls = r.calls.modify i fun lc => { lc with stage := s })
    (hacc : Accounted es h ⟨links, ids, d⟩)
    (hpass : ∀ t, lc.call.token? ≠ some t → ∀ s, (l.traffic cache).Stands t s →
      Stands ⟨links, ids, d⟩ t s)
    (hnow : ∀ t, lc.call.token? = some t → Stands ⟨links, ids, d⟩ t s) :
    Standings es { h with parts := ps }
      { l.modifyOp o f with cluster := { l.cluster with net }, links, strays := ids } d where
  accounted := hacc.mono (fun _ _ hq => hq) (fun _ _ _ hn => hn) fun _ _ _ hn => .inl ⟨hn, rfl⟩
  future t ht :=
    hpass t (fun he => ho.not_owns ht (ho.owns_of_call hcall he)) .fresh (ho.future t ht)
  waiting n d hd t ht := by
    obtain ⟨hdraft, hnone, -⟩ := ho.drafting n d hd
    obtain ⟨j, hj⟩ := List.getElem?_of_mem ht
    refine hpass t (ho.token?_ne_of_owns hcall (hdraft.owns hj) ?_) .fresh (ho.waiting n d hd t ht)
    rintro ⟨rfl, -⟩
    obtain ⟨r, hr, -⟩ := Live.call?_eq_some_iff.1 hcall
    cases hnone.symm.trans hr
  standing n j lc' hcall' t ht := by
    rcases Live.call?_of_modifyOp hcall hf hcall' with ⟨hold, hne⟩ | ⟨rfl, rfl, rfl⟩
    · exact hpass t (ho.token?_ne_of_owns hcall (ho.owns_of_call hold ht) hne) _
        (ho.standing n j lc' hold t ht)
    · exact hnow t ht

/-- One call gets on, and nothing happens under the tokens of the others. -/
theorem modifyOp (ho : Orderly c es h l cache) (hcall : l.call? o i = some lc)
    (hcaches : c.Caches net d) (hlinks : links.length = c.workers.length)
    (hps : ∀ n, n ≠ o → History.only n ps = h.partsOf n) {s : Stage}
    (hf : ∀ r, (f r).calls = r.calls.modify i fun lc => { lc with stage := s })
    (hask : ∀ r sql, r.calls[i]? = some lc → Asking c es h o sql r →
      Asking c es { h with parts := ps } o sql (f r))
    (hacc : Accounted es h ⟨links, ids, d⟩)
    (hpass : ∀ t, lc.call.token? ≠ some t → ∀ s, (l.traffic cache).Stands t s →
      Stands ⟨links, ids, d⟩ t s)
    (hnow : ∀ t, lc.call.token? = some t → Stands ⟨links, ids, d⟩ t s) :
    Orderly c es { h with parts := ps }
      { l.modifyOp o f with cluster := { l.cluster with net }, links, strays := ids } d := by
  obtain ⟨r, hr, hi⟩ := Live.call?_eq_some_iff.1 hcall
  exact {
    toNumbered := ho.withParts ps
    toQueries := ho.toQueries.modifyOp hr hps fun sql => hask r sql hi
    toStandings := ho.standings_modifyOp hcall hf hacc hpass hnow
    cluster := congrArg (fun c : Cluster => { c with net }) ho.cluster
    caches := hcaches
    links := hlinks
  }

theorem ending_error (ho : Orderly c es h l cache) (hcall : l.call? o i = some lc)
    (hlive : lc.stage ≠ .ended) (x : FailureKind) (hlinks : links.length = c.workers.length)
    (hacc : Accounted es h ⟨links, ids, cache⟩)
    (hpass : ∀ t, lc.call.token? ≠ some t → ∀ s, (l.traffic cache).Stands t s →
      Stands ⟨links, ids, cache⟩ t s) :
    Orderly c es h { l.modifyOp o (·.ending i (.error x)) with links, strays := ids } cache :=
  ho.modifyOp hcall ho.caches hlinks (fun _ _ => rfl) (fun r => Asking.calls_ending r i _)
    (fun _ _ hi ha => ha.fail hi hlive x) hacc hpass fun _ _ => trivial

/-- A call comes back with the part that its participant has for its query. -/
theorem ending_rows (ho : Orderly c es h l cache) (hcall : l.call? o i = some lc)
    (hlive : lc.stage ≠ .ended) (hquery : h.queries.lookup o = some sql)
    (hpart : part es sql i = .ok b) (hcaches : c.Caches net d)
    (hacc : Accounted es h ⟨l.links, l.strays, d⟩)
    (hpass : ∀ t, lc.call.token? ≠ some t → ∀ s, (l.traffic cache).Stands t s →
      Stands ⟨l.links, l.strays, d⟩ t s) :
    Orderly c es { h with parts := h.parts ++ [(o, i)] }
      { l.modifyOp o (·.ending i (.ok (.rows b))) with cluster := { l.cluster with net } } d := by
  have hothers : ∀ n, n ≠ o → History.only n (h.parts ++ [(o, i)]) = h.partsOf n := by
    intro n hn
    rw [History.only_append, if_neg hn.symm]
    rfl
  have hask : ∀ r sql', r.calls[i]? = some lc → Asking c es h o sql' r →
      Asking c es { h with parts := h.parts ++ [(o, i)] } o sql' (r.ending i (.ok (.rows b))) := by
    intro r sql' hi ha
    cases hquery.symm.trans ha.query
    exact ha.come hi hlive hpart
  exact ho.modifyOp hcall hcaches ho.links hothers (fun r => Asking.calls_ending r i _) hask hacc
    hpass fun _ _ => trivial

end ModifyOp

theorem own_eq (ho : Orderly c es h l cache) : l.cluster.own = c.own :=
  (congrArg Cluster.own ho.cluster).trans rfl

theorem workers_eq (ho : Orderly c es h l cache) : l.cluster.workers = c.workers :=
  (congrArg Cluster.workers ho.cluster).trans rfl

theorem worker_eq (hc : c.Hosts es) (ho : Orderly c es h l cache)
    (hw : l.cluster.workers[w]? = some worker) :
    w < c.workers.length ∧ worker = .serving (es (w + 1)) := by
  rw [ho.workers_eq] at hw
  obtain ⟨hlt, -⟩ := List.getElem?_eq_some_iff.1 hw
  rw [hc.seats.workers, List.getElem?_map, List.getElem?_range hlt] at hw
  cases hw
  exact ⟨hlt, rfl⟩

theorem isAlive (hc : c.Hosts es) (ho : Orderly c es h l cache) (hw : w < c.workers.length) :
    l.isAlive w = true := by
  have hworker := List.getElem?_eq_getElem (ho.workers_eq ▸ hw : w < l.cluster.workers.length)
  rw [Live.isAlive, hworker, (ho.worker_eq hc hworker).2]
  rfl

theorem ready_eq (hc : c.Hosts es) (ho : Orderly c es h l cache) : l.cluster.phase = .ready :=
  (congrArg Cluster.phase ho.cluster).trans hc.ready

theorem untouched_next (ho : Orderly c es h l cache) :
    (l.traffic cache).Untouched l.cluster.tokens.next.1 :=
  ho.future _ (Nat.lt_succ_self _)

theorem op_lt_begun (ho : Orderly c es h l cache) (hq : h.queries.lookup o = some sql) :
    o < l.begun := by
  refine Nat.lt_of_not_le fun hle => ?_
  cases (ho.unborn o hle).1.symm.trans hq

section TakeToken

variable {qs : List (Nat × String)} {ds : List (Nat × Draft)} {begun : Nat}

theorem Queries.takeToken (hq : Queries c es h l) (hadds : h.Adds o qs) (hnone : l.op? o = none)
    (hans : ∀ p ∈ l.answers, p.1 ≠ o) (hle : l.begun ≤ begun) (hlt : o < begun)
    (hds : ∀ n d, ds.lookup n = some d → (n ≠ o ∧ l.drafts.lookup n = some d) ∨
      (n = o ∧ Drafting c es ⟨qs, h.taken ++ [(o, t)], h.parts⟩ o d)) :
    Queries c es ⟨qs, h.taken ++ [(o, t)], h.parts⟩ { l with cluster, drafts := ds, begun } where
  unborn n hn := by
    obtain ⟨hquery, hparts⟩ := hq.unborn n (Nat.le_trans hle hn)
    refine ⟨(hadds.others n ?_).trans hquery, hparts⟩
    rintro rfl
    exact absurd hn (Nat.not_le_of_lt hlt)
  numbers := hq.numbers
  drafting n d hd := by
    rcases hds n d hd with ⟨hne, hold⟩ | ⟨rfl, hdraft⟩
    · obtain ⟨hdraft, hop, hopen⟩ := hq.drafting n d hold
      exact ⟨hdraft.mono (hadds.lookup hdraft.query) (History.tokensOf_taken_of_ne h qs hne) rfl,
        hop, hopen⟩
    · exact ⟨hdraft, hnone, hans⟩
  asking n r hr := by
    obtain ⟨⟨sql, ha⟩, hopen⟩ := hq.asking n r hr
    exact ⟨⟨sql, ha.mono (hadds.lookup ha.query) (fun _ _ _ hn => History.owns_taken.2 (.inl hn))
      rfl⟩, hopen⟩
  answered p hp := by
    obtain ⟨hbegun, hans⟩ := hq.answered p hp
    refine ⟨Nat.lt_of_lt_of_le hbegun hle, fun a he => ?_⟩
    obtain ⟨sql, ha⟩ := hans a he
    exact ⟨sql, ha.mono (hadds.lookup ha.query) rfl⟩

theorem Standings.takeToken (hs : Standings es h l cache) (hadds : h.Adds o qs)
    (hds : ∀ n d, ds.lookup n = some d → l.drafts.lookup n = some d ∨
      ∀ t ∈ d.tokens, (l.traffic cache).Untouched t) :
    Standings es ⟨qs, h.taken ++ [(o, l.cluster.tokens.next.1)], h.parts⟩
      { l with
        cluster := { l.cluster with tokens := l.cluster.tokens.next.2 }
        drafts := ds
        begun } cache where
  accounted := by
    have hnext : (l.traffic cache).Untouched l.cluster.tokens.next.1 :=
      hs.future _ (Nat.lt_succ_self _)
    refine hs.accounted.mono (fun _ _ => hadds.lookup)
      (fun _ _ _ hn => History.owns_taken.2 (.inl hn)) fun t n i hn => ?_
    rcases History.owns_taken.1 hn with hold | ⟨-, rfl, -⟩
    · exact .inl ⟨hold, hadds.lookup_of_owns hold⟩
    · exact .inr hnext.holds
  future t ht := hs.future t (Nat.lt_of_succ_lt ht)
  waiting n d hd t ht := by
    rcases hds n d hd with hold | hfresh
    · exact hs.waiting n d hold t ht
    · exact hfresh t ht
  standing := hs.standing

/-- A query takes the next token, one that has just begun or one for which tokens are taken. -/
theorem takeToken (ho : Orderly c es h l cache) (hadds : h.Adds o qs) (hnone : l.op? o = none)
    (hans : ∀ p ∈ l.answers, p.1 ≠ o) (hle : l.begun ≤ begun) (hlt : o < begun)
    (hds : ∀ n d, ds.lookup n = some d → (n ≠ o ∧ l.drafts.lookup n = some d) ∨
      (n = o ∧ Drafting c es ⟨qs, h.taken ++ [(o, l.cluster.tokens.next.1)], h.parts⟩ o d ∧
        ∀ t ∈ d.tokens, (l.traffic cache).Untouched t)) :
    Orderly c es ⟨qs, h.taken ++ [(o, l.cluster.tokens.next.1)], h.parts⟩
      { l with
        cluster := { l.cluster with tokens := l.cluster.tokens.next.2 }
        drafts := ds
        begun } cache where
  toNumbered := ho.toNumbered.takeToken hle hlt qs
  toQueries := by
    apply ho.toQueries.takeToken hadds hnone hans hle hlt
    intro n d hd
    exact (hds n d hd).imp_right fun hnew => ⟨hnew.1, hnew.2.1⟩
  toStandings := by
    apply ho.toStandings.takeToken hadds
    intro n d hd
    exact (hds n d hd).imp And.right fun hnew => hnew.2.2
  cluster := congrArg (fun c : Cluster => { c with tokens := l.cluster.tokens.next.2 }) ho.cluster
  caches := ho.caches
  links := ho.links

end TakeToken

section Answer

variable {a : Except ClusterError Answer}

theorem op?_of_filter (hr : (l.running.filter (·.1 ≠ o)).lookup n = some r) :
    n ≠ o ∧ l.op? n = some r := by
  rw [lookup_filter_ne] at hr
  split at hr
  · cases hr
  · next hne => exact ⟨hne, hr⟩

theorem Queries.answer (hq : Queries c es h l) (hlt : o < l.begun)
    (hdraft : l.drafts.lookup o = none)
    (ha : ∀ answer, a = .ok answer → ∃ sql, Answered c es h o sql answer) :
    Queries c es h { l.answer o a with cluster } := by
  have hans : ∀ n, n ≠ o → (∀ p ∈ l.answers, p.1 ≠ n) →
      ∀ p ∈ l.answers ++ [(o, a)], p.1 ≠ n := by
    intro n hne hn p hp
    rcases List.mem_append.1 hp with hp | hp
    · exact hn p hp
    · cases List.mem_singleton.1 hp
      exact hne.symm
  exact {
    unborn := hq.unborn
    numbers := hq.numbers.sublist (List.filter_sublist.map Prod.fst)
    drafting := by
      intro n d hd
      obtain ⟨hdrafting, hnone, hopen⟩ := hq.drafting n d hd
      have hne : n ≠ o := by
        rintro rfl
        cases hdraft.symm.trans hd
      refine ⟨hdrafting, ?_, hans n hne hopen⟩
      exact (lookup_filter_ne l.running o n).trans (by rw [if_neg hne]; exact hnone)
    asking := by
      intro n r hr
      obtain ⟨hne, hold⟩ := op?_of_filter hr
      obtain ⟨hask, hopen⟩ := hq.asking n r hold
      exact ⟨hask, hans n hne hopen⟩
    answered := by
      intro p hp
      rcases List.mem_append.1 hp with hp | hp
      · exact hq.answered p hp
      · cases List.mem_singleton.1 hp
        exact ⟨hlt, ha⟩
  }

theorem standings_answer (ho : Orderly c es h l cache) (hdraft : l.drafts.lookup o = none)
    (hacc : Accounted es h ⟨l.links, l.strays, d⟩)
    (hpass : ∀ t, (∀ i, ¬ h.Owns t o i) → ∀ s, (l.traffic cache).Stands t s →
      Stands ⟨l.links, l.strays, d⟩ t s) :
    Standings es h { l.answer o a with cluster := { l.cluster with net } } d := by
  -- the tokens of the other queries are not among those of this one
  have hother : ∀ t n i, n ≠ o → h.Owns t n i → ∀ j, ¬ h.Owns t o j :=
    fun t n i hne hn j hj => hne (hn.unique ho.distinct hj).1
  exact {
    accounted := hacc
    future := fun t ht => hpass t (fun i => ho.not_owns ht) .fresh (ho.future t ht)
    waiting := by
      intro n d' hd t ht
      obtain ⟨hdrafting, -, -⟩ := ho.drafting n d' hd
      obtain ⟨j, hj⟩ := List.getElem?_of_mem ht
      have hne : n ≠ o := by
        rintro rfl
        cases hdraft.symm.trans hd
      exact hpass t (hother t n _ hne (hdrafting.owns hj)) .fresh (ho.waiting n d' hd t ht)
    standing := by
      intro n i lc hcall t ht
      obtain ⟨r, hr, hi⟩ := Live.call?_eq_some_iff.1 hcall
      obtain ⟨hne, hold⟩ := op?_of_filter hr
      have hcall' := Live.call?_eq_some_iff.2 ⟨r, hold, hi⟩
      exact hpass t (hother t n i hne (ho.owns_of_call hcall' ht)) _
        (ho.standing n i lc hcall' t ht)
  }

theorem answer (ho : Orderly c es h l cache) (hlt : o < l.begun)
    (hdraft : l.drafts.lookup o = none) (hcaches : c.Caches net d)
    (hacc : Accounted es h ⟨l.links, l.strays, d⟩)
    (hpass : ∀ t, (∀ i, ¬ h.Owns t o i) → ∀ s, (l.traffic cache).Stands t s →
      Stands ⟨l.links, l.strays, d⟩ t s)
    (a : Except ClusterError Answer)
    (ha : ∀ answer, a = .ok answer → ∃ sql, Answered c es h o sql answer) :
    Orderly c es h { l.answer o a with cluster := { l.cluster with net } } d where
  toNumbered := ho.toNumbered
  toQueries := ho.toQueries.answer hlt hdraft ha
  toStandings := ho.standings_answer hdraft hacc hpass
  cluster := congrArg (fun c : Cluster => { c with net }) ho.cluster
  caches := hcaches
  links := ho.links

end Answer

end Orderly

end ShardQuery
