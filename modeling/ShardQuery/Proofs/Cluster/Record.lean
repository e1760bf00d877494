import ShardQuery.Proofs.Cluster.Progress

namespace ShardQuery

open Traffic

namespace Orderly

variable {c : Cluster} {es : Nat → Engine} {h : History} {l : Live} {cache : PartitionCache}

theorem draft_eq (hc : c.Hosts es) (ho : Orderly c es h l cache) (sql : String) :
    l.cluster.draft sql = ({ l.cluster with tokens := l.cluster.tokens.next.2 },
      (Cluster.lift ((es 0).prepare sql)).map (⟨sql, ·, []⟩)) := by
  have hready : l.cluster.ready "sql" = .ok () := if_pos (ho.ready_eq hc)
  rw [Cluster.draft, hready, ← hc.seats.own, ← ho.own_eq]

theorem begin_draft (ho : Orderly c es h l cache) (sql : String)
    (hds : ∀ n d, ds.lookup n = some d → (n ≠ l.begun ∧ l.drafts.lookup n = some d) ∨
      (n = l.begun ∧ (es 0).prepare sql = .ok d.prepared ∧ d.sql = sql ∧ d.tokens = [])) :
    Orderly c es ⟨h.queries ++ [(l.begun, sql)],
        h.taken ++ [(l.begun, l.cluster.tokens.next.1)], h.parts⟩
      { l with
        cluster := { l.cluster with tokens := l.cluster.tokens.next.2 }
        drafts := ds
        begun := l.begun + 1 } cache := by
  obtain ⟨hq, hp⟩ := ho.unborn l.begun (Nat.le_refl _)
  have ht := ho.untaken l.begun (Nat.le_refl _)
  have hadds : h.Adds l.begun (h.queries ++ [(l.begun, sql)]) :=
    ⟨fun n hn => by simp [hn], .inl ⟨hq, ht⟩⟩
  refine ho.takeToken hadds ?_ ?_ (Nat.le_succ _) (Nat.lt_succ_self _) fun n d hd => ?_
  · cases hr : l.op? l.begun with
    | none => rfl
    | some r =>
      obtain ⟨⟨sql', ha⟩, -⟩ := ho.asking _ r hr
      cases hq.symm.trans ha.query
  · intro p hp he
    exact absurd (ho.answered p hp).1 (he ▸ Nat.lt_irrefl _)
  · rcases hds n d hd with hold | ⟨hn, hprepared, hsql, hnil⟩
    · exact .inl hold
    · refine .inr ⟨hn, ⟨?_, ⟨l.cluster.tokens.next.1, ?_⟩, ?_, ?_, hp⟩, ?_⟩
      · simp [hq, hsql]
      · rw [History.tokensOf, History.only_append, if_pos rfl, hnil]
        exact congrArg (· ++ [_]) ht
      · rw [hnil]
        exact Nat.zero_le _
      · rw [hsql]
        exact hprepared
      · intro t ht
        rw [hnil] at ht
        cases ht

theorem drafts_ne_begun (ho : Orderly c es h l cache) {d : Draft} (hd : l.drafts.lookup n = some d) :
    n ≠ l.begun := by
  obtain ⟨hdraft, -, -⟩ := ho.drafting n d hd
  exact Nat.ne_of_lt (ho.op_lt_begun hdraft.query)

theorem draft (hc : c.Hosts es) (ho : Orderly c es h l cache) (sql : String) :
    Orderly c es (h.note l (.draft sql)) (l.draft sql) cache := by
  have hnote : h.note l (.draft sql) = ⟨h.queries ++ [(l.begun, sql)],
      h.taken ++ [(l.begun, l.cluster.tokens.next.1)], h.parts⟩ := if_pos (ho.ready_eq hc)
  rw [hnote, Live.draft, ho.draft_eq hc]
  cases hp : (es 0).prepare sql with
  | ok p =>
    refine ho.begin_draft sql fun n d hd => ?_
    rw [lookup_snoc] at hd
    cases hold : l.drafts.lookup n with
    | some d' =>
      rw [hold] at hd
      cases hd
      exact .inl ⟨ho.drafts_ne_begun hold, rfl⟩
    | none =>
      rw [hold, Option.none_or] at hd
      split at hd
      · next hn =>
        cases hd
        exact .inr ⟨hn, hp, rfl, rfl⟩
      · cases hd
  | error x =>
    have hbegun := ho.begin_draft sql fun n d hd => .inl ⟨ho.drafts_ne_begun hd, hd⟩
    have hnone : l.drafts.lookup l.begun = none := by
      cases hd : l.drafts.lookup l.begun with
      | none => rfl
      | some d => exact absurd rfl (ho.drafts_ne_begun hd)
    have hfilter : l.running.filter (·.1 ≠ l.begun) = l.running := by
      refine List.filter_eq_self.2 fun p hmem => ?_
      have hlookup : l.op? p.1 = some p.2 := lookup_of_mem ho.numbers hmem
      obtain ⟨⟨sql', ha⟩, -⟩ := ho.asking _ _ hlookup
      exact decide_eq_true (Nat.ne_of_lt (ho.op_lt_begun ha.query))
    have hanswer := hbegun.answer (Nat.lt_succ_self _) hnone hbegun.caches hbegun.accounted
      (fun t _ s hs => hs) (.error (.engine x)) fun _ he => by cases he
    simp only [Live.answer, hfilter] at hanswer
    exact hanswer

theorem issue_token (ho : Orderly c es h l cache) (hd : l.drafts.lookup o = some q)
    (hlt : q.tokens.length < c.workers.length) :
    Orderly c es { h with taken := h.taken ++ [(o, l.cluster.tokens.next.1)] }
      { l with
        cluster := { l.cluster with tokens := l.cluster.tokens.next.2 }
        drafts := l.drafts.map fun (n, d) =>
          if n = o then (n, { d with tokens := d.tokens ++ [l.cluster.tokens.next.1] })
          else (n, d) } cache := by
  obtain ⟨hdraft, hnone, hans⟩ := ho.drafting o q hd
  refine ho.takeToken ⟨fun _ _ => rfl, .inr rfl⟩ hnone hans (Nat.le_refl _)
    (ho.op_lt_begun hdraft.query) fun n d hlookup => ?_
  have hn := (lookup_modify l.drafts o n fun d =>
    { d with tokens := d.tokens ++ [l.cluster.tokens.next.1] }).symm.trans hlookup
  split at hn
  · next hno =>
    subst hno
    rw [hd] at hn
    cases hn
    obtain ⟨t₀, htokens⟩ := hdraft.tokens
    refine .inr ⟨rfl, ⟨hdraft.query, ⟨t₀, ?_⟩, ?_, hdraft.prepared, hdraft.parts⟩, ?_⟩
    · rw [History.tokensOf, History.only_append, if_pos rfl]
      exact congrArg (· ++ [_]) htokens
    · rw [List.length_append]
      exact hlt
    · intro t ht
      rcases List.mem_append.1 ht with ht | ht
      · exact ho.waiting n q hd t ht
      · cases List.mem_singleton.1 ht
        exact ho.untouched_next
  · next hne => exact .inl ⟨hne, hn⟩

section Begin

variable {r : Running} {q : Draft}

theorem drafts_of_filter (hn : (l.drafts.filter (·.1 ≠ o)).lookup n = some q) :
    n ≠ o ∧ l.drafts.lookup n = some q := by
  rw [lookup_filter_ne] at hn
  split at hn
  · cases hn
  · next hne => exact ⟨hne, hn⟩

theorem Queries.begin_calls (hq : Queries c es h l) (hd : l.drafts.lookup o = some q)
    (hask : Asking c es h o q.sql r) :
    Queries c es h
      { l with drafts := l.drafts.filter (·.1 ≠ o), running := l.running ++ [(o, r)] } := by
  obtain ⟨-, hnone, hans⟩ := hq.drafting o q hd
  exact {
    unborn := hq.unborn
    numbers := Live.nodup_numbers_append hq.numbers hnone r
    drafting := by
      intro n d hn
      obtain ⟨hne, hold⟩ := drafts_of_filter hn
      obtain ⟨hdrafting, hop, hopen⟩ := hq.drafting n d hold
      exact ⟨hdrafting, by rw [Live.op?_append hnone, if_neg hne, hop], hopen⟩
    asking := by
      intro n r' hr
      rw [Live.op?_append hnone] at hr
      split at hr
      · next hn =>
        subst hn
        cases hr
        exact ⟨⟨_, hask⟩, hans⟩
      · exact hq.asking n r' hr
    answered := hq.answered
  }

theorem Standings.begin_calls (hs : Standings es h l cache) (hnone : l.op? o = none)
    (hfresh : ∀ (i : Nat) lc t, r.calls[i]? = some lc → lc.call.token? = some t →
      lc.stage = .fresh ∧ (l.traffic cache).Untouched t) :
    Standings es h
      { l with drafts := l.drafts.filter (·.1 ≠ o), running := l.running ++ [(o, r)] } cache where
  accounted := hs.accounted
  future := hs.future
  waiting n d hn := hs.waiting n d (drafts_of_filter hn).2
  standing n i lc hcall t ht := by
    obtain ⟨r', hr, hi⟩ := Live.call?_eq_some_iff.1 hcall
    rw [Live.op?_append hnone] at hr
    split at hr
    · next hn =>
      subst hn
      cases hr
      obtain ⟨hstage, huntouched⟩ := hfresh i lc t hi ht
      rw [hstage]
      exact huntouched
    · exact hs.standing n i lc (Live.call?_eq_some_iff.2 ⟨r', hr, hi⟩) t ht

end Begin

theorem begin_calls (hc : c.Hosts es) (ho : Orderly c es h l cache)
    (hd : l.drafts.lookup o = some q) (hsize : q.tokens.length = c.workers.length) :
    Orderly c es h
      { l with
        drafts := l.drafts.filter (·.1 ≠ o)
        running := l.running ++
          [(o, .fresh (l.cluster.dispatch q).1 l.now (.conclude (l.cluster.dispatch q).2))] } cache := by
  obtain ⟨hdraft, hnone, -⟩ := ho.drafting o q hd
  have hdispatch : l.cluster.dispatch q = c.dispatch q := by
    simp only [Cluster.dispatch, Cluster.callEach, Cluster.workerIds, ho.workers_eq]
  have hask := hdraft.asking hc hsize l.now
  rw [← hdispatch] at hask
  exact {
    toNumbered := ho.toNumbered
    toQueries := ho.toQueries.begin_calls hd hask
    toStandings := by
      refine ho.toStandings.begin_calls hnone fun i lc t hi ht => ?_
      have hfits := hask.fits i lc hi
      have howns := hfits.owns ht
      rw [Running.fresh, List.getElem?_map, Option.map_eq_some_iff] at hi
      obtain ⟨call, -, rfl⟩ := hi
      refine ⟨rfl, ?_⟩
      -- its token is one that the draft had
      obtain ⟨t₀, htokens⟩ := hdraft.tokens
      cases hfits with
      | own => cases ht
      | ask =>
        rw [History.Owns, htokens] at howns
        exact ho.waiting o q hd t (List.mem_of_getElem? howns)
    cluster := ho.cluster
    caches := ho.caches
    links := ho.links
  }

theorem issue (hc : c.Hosts es) (ho : Orderly c es h l cache) (o : Nat) :
    Orderly c es (h.note l (.issue o)) (l.issue o) cache := by
  cases hd : l.drafts.lookup o with
  | none =>
    simp only [History.note, Live.issue, hd]
    exact ho
  | some q =>
    obtain ⟨hdraft, -, -⟩ := ho.drafting o q hd
    by_cases hlt : q.tokens.length < l.cluster.workers.length
    · simp only [History.note, Live.issue, hd, if_pos hlt]
      rw [ho.workers_eq] at hlt
      exact ho.issue_token hd hlt
    · simp only [History.note, Live.issue, hd, if_neg hlt]
      rw [ho.workers_eq] at hlt
      exact ho.begin_calls hc hd (Nat.le_antisymm hdraft.size (Nat.le_of_not_lt hlt))

/-- The calls of a query have ended, and its parts go together or one is missing. -/
theorem concludes (hc : c.Hosts es) (ho : Orderly c es h l cache) (hr : l.op? o = some r)
    (hall : r.allEnded = true) (haim : r.aim = .conclude (.queried ids))
    (hids : ∀ p ∈ ids, ∃ t i, h.Owns t o i ∧ p.2 = t.messageId)
    (hoff : Cluster.breaksOff (.ofEnded r.ended) (.queried ids) = false)
    (ha : Asking c es h o sql r) : ∃ d, Orderly c es h (l.conclude o) d := by
  obtain ⟨m, d, hdiscard, hcaches, hforgets⟩ :=
    hc.discardLate_eq ho.own_eq ho.caches ids (Outcome.ofEnded r.ended).failures
  have hconclude : l.conclude o = { l with cluster := { l.cluster with net := m } }.answer o
      ((Outcome.ofEnded r.ended).result "sql" >>= Cluster.combine) := by
    simp only [Live.conclude, hr, hall, haim, hoff, Cluster.conclude, hdiscard]
    rfl
  have hdraft : l.drafts.lookup o = none := by
    cases hd : l.drafts.lookup o with
    | none => rfl
    | some q => cases (ho.drafting o q hd).2.1.symm.trans hr
  rw [hconclude]
  refine ⟨d, ho.answer (ho.op_lt_begun ha.query) hdraft hcaches
    (ho.accounted.withCache _ hforgets.find?_of) (fun t ht s hs => ?_) _
    fun answer hok => ⟨sql, ha.answered hall hok⟩⟩
  obtain ⟨hfind, habandoned⟩ := hforgets.other t.messageId (by
    intro p hp he
    obtain ⟨u, i, hu, hid⟩ := hids p hp
    cases CorrelationToken.messageId_injective (hid.symm.trans he)
    exact ht i hu)
  have hstill : Still (l.traffic cache) ⟨l.links, l.strays, d⟩ t :=
    still_withCache (f := l.traffic cache) hfind fun hw => ⟨hw.1, habandoned hw.2⟩
  exact hstill.stands hs

theorem conclude (hc : c.Hosts es) (ho : Orderly c es h l cache) (o : Nat) :
    ∃ d, Orderly c es h (l.conclude o) d := by
  cases hr : l.op? o with
  | none =>
    have hsame : l.conclude o = l := by rw [Live.conclude, hr]
    rw [hsame]
    exact ⟨cache, ho⟩
  | some r =>
    obtain ⟨⟨sql, ha⟩, -⟩ := ho.asking o r hr
    have hsame : r.allEnded = false ∨ (∃ goal, r.aim = .conclude goal ∧
        Cluster.breaksOff (.ofEnded r.ended) goal = true) → l.conclude o = l := by
      rintro (hall | ⟨goal, haim, hoff⟩)
      · simp only [Live.conclude, hr, hall]
        rfl
      · simp only [Live.conclude, hr, haim, hoff, if_true, ite_self]
    obtain ⟨ids, haim, hids⟩ := ha.aim
    cases hall : r.allEnded with
    | false =>
      rw [hsame (.inl hall)]
      exact ⟨cache, ho⟩
    | true =>
      cases hoff : Cluster.breaksOff (.ofEnded r.ended) (.queried ids) with
      | true =>
        rw [hsame (.inr ⟨_, haim, hoff⟩)]
        exact ⟨cache, ho⟩
      | false => exact ho.concludes hc hr hall haim hids hoff ha

/-- Whatever happens next, it goes as the record says. -/
theorem note (hc : c.Hosts es) (ho : Orderly c es h l cache) {e : Event} (he : e.Querying)
    (hone : ∀ op, e ≠ .start op) : ∃ d, Orderly c es (h.note l e) (l.step e) d := by
  cases e with
  | start op => exact absurd rfl (hone op)
  | stop => cases he
  | draft sql => exact ⟨_, ho.draft hc sql⟩
  | issue o => exact ⟨_, ho.issue hc o⟩
  | prepare o i => exact ⟨_, ho.prepare o i⟩
  | own o i => exact ⟨_, ho.own o i⟩
  | send o i => exact ⟨_, ho.send hc o i⟩
  | serve w => exact ⟨_, ho.serve hc w⟩
  | deliver w => exact ho.deliver hc w
  | receive w => exact ⟨_, ho.receive w⟩
  | pull o i => exact ho.pull hc o i
  | close w => exact ⟨_, ho.close hc w⟩
  | expire o i => exact ⟨_, ho.expire o i⟩
  | conclude o => exact ho.conclude hc o
  | stray k => exact ho.stray hc k
  | tick ms => exact ⟨_, ho.tick ms⟩

theorem notes (hc : c.Hosts es) (ho : Orderly c es h l cache) {events : List Event}
    (he : ∀ e ∈ events, e.Querying ∧ ∀ op, e ≠ .start op) :
    ∃ d, Orderly c es (h.notes l events) (l.steps events) d := by
  induction events generalizing h l cache with
  | nil => exact ⟨cache, ho⟩
  | cons e events ih =>
    obtain ⟨hquerying, hone⟩ := he e (List.mem_cons_self ..)
    obtain ⟨d, hd⟩ := ho.note hc hquerying hone
    exact ih hd fun e' he' => he e' (List.mem_cons_of_mem _ he')

theorem querying_parts {e : Event} (he : e.Querying) (l : Live) :
    ∀ e' ∈ e.parts l, e'.Querying ∧ ∀ op, e' ≠ .start op := by
  intro e' hmem
  cases e with
  | start op =>
    cases op with
    | query sql =>
      rcases List.mem_cons.1 hmem with rfl | hmem
      · exact ⟨trivial, fun op h => by cases h⟩
      · rw [List.eq_of_mem_replicate hmem]
        exact ⟨trivial, fun op h => by cases h⟩
    | _ => cases he
  | _ =>
    cases List.mem_singleton.1 hmem
    exact ⟨he, fun op h => by cases h⟩

theorem record (hc : c.Hosts es) (ho : Orderly c es h l cache) {events : List Event}
    (he : ∀ e ∈ events, e.Querying) :
    ∃ d, Orderly c es (h.record l events) (l.steps events) d := by
  induction events generalizing h l cache with
  | nil => exact ⟨cache, ho⟩
  | cons e events ih =>
    obtain ⟨d, hd⟩ := ho.notes hc (querying_parts (he e (List.mem_cons_self ..)) l)
    rw [Live.steps_parts] at hd
    exact ih hd fun e' he' => he e' (List.mem_cons_of_mem _ he')

end Orderly

end ShardQuery
