import ShardQuery.Proofs.Cluster.Settlement

namespace ShardQuery

open CacheRequest

variable {n : Nat} {t : CorrelationToken}

namespace Ledger

variable {f : Ledger} {c : Cluster} {d : Draft}

theorem Drafts.owns {h : History} (hd : f.Drafts n h o d) (ht : d.tokens[i]? = some t) :
    h.Owns t o (i + 1) := by
  obtain ⟨t₀, htokens⟩ := hd.tokens
  rw [History.Owns, htokens]
  exact ht

section Dispatch

variable (hn : c.workers.length < UInt32.size) (hsize : d.tokens.length = c.workers.length)

include hn hsize

theorem getElem?_dispatch (ht : d.tokens[w]? = some t) :
    c.workerIds[w]? = some ⟨w + 1⟩ ∧ (c.dispatch d).1[w + 1]? =
      some ⟨⟨w + 1⟩, .ask none (.runQuery t t.messageId d.sql)⟩ := by
  have hlt := (List.getElem?_eq_some_iff.1 ht).1
  rw [hsize] at hlt
  have hid : c.workerIds[w]? = some ⟨w + 1⟩ := by
    rw [Cluster.workerIds_eq hn, List.getElem?_map, List.getElem?_range hlt]
    rfl
  refine ⟨hid, ?_⟩
  show (List.zipWith _ c.workerIds d.tokens)[w]? = _
  rw [List.getElem?_zipWith, hid, ht]

/-- The first call is the coordinator's own, and each other one is at the worker of its token. -/
theorem call_of_dispatch {i : Nat} (hi : (c.dispatch d).1[i]? = some call) :
    call = ⟨.coordinator, .own d.prepared.run⟩ ∨ ∃ w t, i = w + 1 ∧ d.tokens[w]? = some t ∧
      call = ⟨⟨w + 1⟩, .ask none (.runQuery t t.messageId d.sql)⟩ := by
  cases i with
  | zero =>
    cases hi
    exact .inl rfl
  | succ w =>
    obtain ⟨p, t, -, ht, -⟩ := List.getElem?_zipWith_eq_some.1 hi
    rw [(getElem?_dispatch hn hsize ht).2] at hi
    cases hi
    exact .inr ⟨w, t, rfl, ht, rfl⟩

theorem lookup_dispatch (ht : d.tokens[w]? = some t) :
    (List.zip c.workerIds (d.tokens.map CorrelationToken.messageId)).lookup ⟨w + 1⟩ =
      some t.messageId := by
  refine lookup_of_mem ?_ (List.mem_of_getElem? (i := w) (List.getElem?_zip_eq_some.2 ⟨?_, ?_⟩))
  · rw [List.map_fst_zip (by simp [Cluster.workerIds, hsize]), Cluster.workerIds_eq hn]
    exact List.nodup_range.map fun i j he => by cases he; rfl
  · exact (getElem?_dispatch hn hsize ht).1
  · rw [List.getElem?_map, ht]
    rfl

/-- A query whose tokens are all taken asks one worker under each. -/
theorem Drafts.tends {h : History} (hd : f.Drafts n h o d) (now : Nat) :
    f.Tends h o (.fresh (c.dispatch d).1 now (.conclude (c.dispatch d).2)) := by
  have hcalls : ∀ (i : Nat) lc,
      (Running.fresh (c.dispatch d).1 now (.conclude (c.dispatch d).2)).calls[i]? = some lc →
        (c.dispatch d).1[i]? = some lc.call ∧ lc.stage = .fresh := by
    intro i lc hi
    rw [Running.fresh, List.getElem?_map, Option.map_eq_some_iff] at hi
    obtain ⟨call, hcall, rfl⟩ := hi
    exact ⟨hcall, rfl⟩
  refine ⟨?_, ?_, ?_, ?_, ?_⟩
  · intro i p ahead q stage hi
    rcases call_of_dispatch hn hsize (hcalls i _ hi).1 with he | ⟨w, t, -, -, he⟩
    · cases he
    · cases he
      exact fun hp => by cases hp
  · intro i lc t hi htok
    rcases call_of_dispatch hn hsize (hcalls i lc hi).1 with he | ⟨w, t', rfl, ht, he⟩
    · rw [he] at htok
      cases htok
    · rw [he] at htok
      cases htok
      exact ⟨w, d.sql, rfl, hd.owns ht, he⟩
  · intro t w howns
    obtain ⟨t₀, htokens⟩ := hd.tokens
    rw [History.Owns, htokens] at howns
    have ht : d.tokens[w]? = some t := howns
    have hcall : (Running.fresh (c.dispatch d).1 now (.conclude (c.dispatch d).2)).calls[w + 1]? =
        some ⟨⟨⟨w + 1⟩, .ask none (.runQuery t t.messageId d.sql)⟩, .fresh⟩ := by
      rw [Running.fresh, List.getElem?_map, (getElem?_dispatch hn hsize ht).2]
      rfl
    exact ⟨⟨_, hcall, rfl⟩, _, rfl, lookup_dispatch hn hsize ht⟩
  · intro ids p id he hid
    cases he
    obtain ⟨_, _, hzip, -⟩ := List.lookup_eq_some_iff.1 hid
    have hmem : (p, id) ∈ List.zip c.workerIds (d.tokens.map CorrelationToken.messageId) := by
      rw [hzip]
      exact List.mem_append_right _ (List.mem_cons_self ..)
    obtain ⟨t, ht, rfl⟩ := List.mem_map.1 (List.of_mem_zip hmem).2
    obtain ⟨w, hw⟩ := List.getElem?_of_mem ht
    exact ⟨t, w + 1, hd.owns hw, rfl⟩
  · intro w lc t hi htok
    obtain ⟨hcall, hstage⟩ := hcalls _ lc hi
    rw [hstage]
    rcases call_of_dispatch hn hsize hcall with he | ⟨w', t', -, ht, he⟩
    · rw [he] at htok
      cases htok
    · rw [he] at htok
      cases htok
      exact hd.unused t (List.mem_of_getElem? ht)

end Dispatch

end Ledger

namespace Tended

variable {ms : Membership} {n : Nat} {h : History} {trace : List (Event × CacheRequest)}
  {l : Live} {t : CorrelationToken}

theorem withParts (ht : Tended ms n h trace l) (ps : List (Nat × Nat)) :
    Tended ms n { h with parts := ps } trace l where
  toNumbered := ht.toNumbered.withParts ps
  toService := ⟨ht.staffed, ht.links, ht.ordered, ht.strays, ht.given⟩
  toReserve := ⟨ht.future, ht.first⟩
  numbers := ht.numbers
  drafting o d hd := by
    obtain ⟨hlt, hop, hans, hdraft⟩ := ht.drafting o d hd
    exact ⟨hlt, hop, hans, hdraft.size, hdraft.tokens, hdraft.unused⟩
  tending o r hr := by
    obtain ⟨hlt, hans, htends⟩ := ht.tending o r hr
    exact ⟨hlt, hans, htends.mono fun _ _ => .rfl⟩
  answered := ht.answered
  toRequests := ht.toRequests

/-- A query begins and takes its first token. -/
theorem begin_draft (ht : Tended ms n h trace l) {qs : List (Nat × String)}
    {ds : List (Nat × Draft)}
    (hds : ∀ m d, ds.lookup m = some d → l.drafts.lookup m = some d ∨
      (m = l.begun ∧ d.tokens = [])) :
    Tended ms n
      { h with queries := qs, taken := h.taken ++ [(l.begun, l.cluster.tokens.next.1)] } trace
      { l with
        cluster := { l.cluster with tokens := l.cluster.tokens.next.2 }
        drafts := ds
        begun := l.begun + 1 } := by
  refine (ht.withBegun (Nat.le_succ l.begun)).takeToken (Nat.lt_succ_self _) ht.op?_begun
    fun m d hd => ?_
  rcases hds m d hd with hold | ⟨rfl, hnil⟩
  · refine .inl ⟨?_, hold⟩
    rintro rfl
    cases ht.lookup_begun.symm.trans hold
  · refine .inr ⟨rfl, ht.answers_ne_begun, ?_, ⟨l.cluster.tokens.next.1, ?_⟩, ?_⟩
    · rw [hnil]
      exact Nat.zero_le n
    · rw [History.tokensOf, History.only_append, if_pos rfl, hnil]
      exact congrArg (· ++ [_]) (ht.untaken l.begun (Nat.le_refl _))
    · intro t hm
      rw [hnil] at hm
      cases hm

theorem draft (ht : Tended ms n h trace l) (sql : String) :
    Tended ms n (h.note l (.draft sql)) trace (l.draft sql) := by
  have hunborn := ht.untaken l.begun (Nat.le_refl _)
  by_cases hphase : l.cluster.phase = .ready
  · have hready : l.cluster.ready "sql" = .ok () := if_pos hphase
    have hnote : h.note l (.draft sql) = ⟨h.queries ++ [(l.begun, sql)],
        h.taken ++ [(l.begun, l.cluster.tokens.next.1)], h.parts⟩ := if_pos hphase
    have hdraft : l.cluster.draft sql = ({ l.cluster with tokens := l.cluster.tokens.next.2 },
        (Cluster.lift (l.cluster.own.prepare sql)).map (⟨sql, ·, []⟩)) := by
      rw [Cluster.draft, hready]
    rw [hnote, Live.draft, hdraft]
    cases hp : l.cluster.own.prepare sql with
    | ok p =>
      refine ht.begin_draft fun m d hd => ?_
      rw [lookup_snoc] at hd
      cases hold : l.drafts.lookup m with
      | some d' =>
        rw [hold] at hd
        cases hd
        exact .inl rfl
      | none =>
        rw [hold, Option.none_or] at hd
        split at hd
        · next hm =>
          cases hd
          exact .inr ⟨hm, rfl⟩
        · cases hd
    | error x =>
      refine (ht.begin_draft fun m d hd => .inl hd).withAnswer (Nat.lt_succ_self _) ht.op?_begun
        ht.lookup_begun (fun t i howns => ?_) _
      rcases History.owns_taken.1 howns with hold | ⟨-, rfl, -⟩
      · rw [History.Owns, hunborn] at hold
        cases hold
      · exact Ledger.settled_of_notMem (ht.future _ (Nat.lt_succ_self _))
  · have hready : l.cluster.ready "sql" = .error (.notReady "sql" l.cluster.phase) := if_neg hphase
    have hnote : h.note l (.draft sql) = h := if_neg hphase
    have hdraft : l.cluster.draft sql = (l.cluster, .error (.notReady "sql" l.cluster.phase)) := by
      rw [Cluster.draft, hready]
    rw [hnote, Live.draft, hdraft]
    refine (ht.withBegun (Nat.le_succ l.begun)).withAnswer (Nat.lt_succ_self _) ht.op?_begun
      ht.lookup_begun (fun t i howns => ?_) _
    rw [History.Owns, hunborn] at howns
    cases howns

/-- The calls of an operation begin. -/
theorem join (ht : Tended ms n h trace l) {ds : List (Nat × Draft)} {calls : List Call} {aim : Aim}
    (hlt : o < l.begun) (hop : l.op? o = none) (hans : ∀ p ∈ l.answers, p.1 ≠ o)
    (hds : ∀ m d, ds.lookup m = some d → m ≠ o ∧ l.drafts.lookup m = some d)
    (htends : (l.ledger trace).Tends h o (.fresh calls now aim)) :
    Tended ms n h trace
      { l with drafts := ds, running := l.running ++ [(o, .fresh calls now aim)] } := by
  have hlookup := Live.op?_append hop ds (.fresh calls now aim)
  refine ht.withRunning (Live.nodup_numbers_append ht.numbers hop _) ?_ ?_
  · intro m r hr
    have hr := (hlookup m).symm.trans hr
    by_cases hne : m = o
    · subst hne
      rw [if_pos rfl] at hr
      cases hr
      refine .inr ⟨hlt, hans, htends, fun i lc hi => ?_⟩
      rw [Running.fresh, List.getElem?_map, Option.map_eq_some_iff] at hi
      obtain ⟨call, -, rfl⟩ := hi
      rfl
    · rw [if_neg hne] at hr
      exact .inl hr
  · intro m d hd
    obtain ⟨hne, hd⟩ := hds m d hd
    exact ⟨hd, (hlookup m).trans (by rw [if_neg hne, (ht.drafting m d hd).2.1])⟩

theorem issue (hn : n < UInt32.size) (ht : Tended ms n h trace l) (o : Nat) :
    Tended ms n (h.note l (.issue o)) trace (l.issue o) := by
  cases hd : l.drafts.lookup o with
  | none =>
    simp only [History.note, Live.issue, hd]
    exact ht
  | some d =>
    obtain ⟨hlt, hop, hans, hdraft⟩ := ht.drafting o d hd
    by_cases hsize : d.tokens.length < l.cluster.workers.length
    · simp only [History.note, Live.issue, hd, if_pos hsize]
      refine ht.takeToken hlt hop fun m d' hd' => ?_
      have hm := (lookup_modify l.drafts o m fun d =>
        { d with tokens := d.tokens ++ [l.cluster.tokens.next.1] }).symm.trans hd'
      split at hm
      · next hmo =>
        subst hmo
        rw [hd] at hm
        cases hm
        obtain ⟨t₀, htokens⟩ := hdraft.tokens
        refine .inr ⟨rfl, hans, ?_, ⟨t₀, ?_⟩, ?_⟩
        · rw [ht.staffed.size] at hsize
          rw [List.length_append]
          exact hsize
        · rw [History.tokensOf, History.only_append, if_pos rfl]
          exact congrArg (· ++ [_]) htokens
        · intro t htm
          rcases List.mem_append.1 htm with htm | htm
          · exact hdraft.unused t htm
          · cases List.mem_singleton.1 htm
            exact ht.future _ (Nat.lt_succ_self _)
      · next hne => exact .inl ⟨hne, hm⟩
    · simp only [History.note, Live.issue, hd, if_neg hsize]
      have hworkers := ht.staffed.size
      have hfull : d.tokens.length = l.cluster.workers.length :=
        Nat.le_antisymm (hworkers ▸ hdraft.size) (Nat.le_of_not_lt hsize)
      refine ht.join hlt hop hans (fun m d' hm => ?_)
        (Ledger.Drafts.tends (by rw [hworkers]; exact hn) hfull hdraft l.now)
      rw [lookup_filter_ne] at hm
      split at hm
      · cases hm
      · next hne => exact ⟨hne, hm⟩

/-- An operation that is not a query begins. -/
theorem start (ht : Tended ms n h trace l) {op : Operation} (hop : ∀ sql, op ≠ .query sql) :
    Tended ms n h trace (l.start op) := by
  have hunborn := ht.untaken l.begun (Nat.le_refl _)
  have hnone : ∀ t i, ¬ h.Owns t l.begun i := by
    intro t i howns
    rw [History.Owns, hunborn] at howns
    cases howns
  have hbegins := ht.staffed.start hop
  obtain ⟨⟨cluster, begun⟩, hs⟩ : ∃ next, l.cluster.start op = next := ⟨_, rfl⟩
  rw [hs] at hbegins
  obtain ⟨hstaffed, htokens, hplain⟩ := hbegins
  have hbegun : Tended ms n h trace { l with cluster, begun := l.begun + 1 } :=
    (ht.of_steps hstaffed htokens (ht.ordered.ask rfl fun _ hm => by cases hm) ht.strays).withBegun
      (Nat.le_succ l.begun)
  cases hplain with
  | answered a =>
    have hstart : l.start op = { l with
        cluster, begun := l.begun + 1, answers := l.answers ++ [(l.begun, a)] } := by
      cases op with
      | query sql => exact absurd rfl (hop sql)
      | _ => simp only [Live.start, hs]
    rw [hstart]
    exact hbegun.withAnswer (Nat.lt_succ_self _) ht.op?_begun ht.lookup_begun
      (fun t i howns => absurd howns (hnone t i)) a
  | @waiting calls goal hc hg =>
    have hstart : l.start op = { l with
        cluster
        begun := l.begun + 1
        running := l.running ++ [(l.begun, .fresh calls l.now (.conclude goal))] } := by
      cases op with
      | query sql => exact absurd rfl (hop sql)
      | _ => simp only [Live.start, hs]
    rw [hstart]
    refine hbegun.join (Nat.lt_succ_self _) ht.op?_begun ht.answers_ne_begun (fun m d hd => ?_)
      (Ledger.tends_plain hc (fun t w => hnone t (w + 1)) fun ids he => ?_)
    · refine ⟨?_, hd⟩
      rintro rfl
      cases ht.lookup_begun.symm.trans hd
    · cases he
      exact hg ids rfl

end Tended

end ShardQuery
