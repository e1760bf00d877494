import ShardQuery.Proofs.Cluster.Tended
import ShardQuery.Proofs.Cluster.Progress

namespace ShardQuery

open CacheRequest

def Live.requests (l : Live) : Event → List CacheRequest
  | .deliver w =>
    match l.links[w]?, l.cluster.workers[w]? with
    | some ⟨_, _, some job, _⟩, some _ => [.put job.token job.id job.batch]
    | _, _ => []
  | .pull o i =>
    match l.call? o i with
    | some ⟨⟨_, .ask _ (.runQuery _ id _)⟩, .pulling⟩ => [.pull id]
    | _ => []
  | .stray k =>
    match l.strays[k]? with
    | some id => [.pull id]
    | none => []
  | .conclude o =>
    match l.op? o with
    | some r =>
      match r.allEnded, r.aim with
      | true, .conclude goal => (goal.lateIds (Outcome.ofEnded r.ended).failures).map .discard
      | _, _ => []
    | none => []
  | _ => []

namespace Tended

variable {ms : Membership} {n : Nat} {h : History} {trace : List (Event × CacheRequest)}
  {l : Live} {lc : LiveCall} {t : CorrelationToken}

theorem tick (ht : Tended ms n h trace l) (ms' : Nat) :
    Tended ms n h trace { l with now := l.now + ms' } :=
  { ht with }

theorem worker_eq (ht : Tended ms n h trace l) (hw : w < n) :
    ∃ e, l.cluster.workers[w]? = some (.serving e) ∧ e.IsSound ms (w + 1) := by
  rw [← ht.staffed.size] at hw
  obtain ⟨e, he, hsound⟩ := ht.staffed.worker w _ (List.getElem?_eq_getElem hw)
  exact ⟨e, by rw [List.getElem?_eq_getElem hw, he], hsound⟩

theorem isAlive (ht : Tended ms n h trace l) (hk : l.links[w]? = some k) : l.isAlive w = true := by
  have hw := (List.getElem?_eq_some_iff.1 hk).1
  rw [ht.links] at hw
  obtain ⟨e, he, -⟩ := ht.worker_eq hw
  rw [Live.isAlive, he]
  rfl

/-- All workers live, so that no channel closes. -/
theorem close (ht : Tended ms n h trace l) (w : Nat) : Tended ms n h trace (l.close w) := by
  unfold Live.close
  split
  · next hk =>
    rw [if_pos (ht.isAlive hk)]
    exact ht
  · exact ht

theorem number_le (ht : Tended ms n h trace l) (hcall : l.call? o i = some lc)
    (hs : lc.stage.number? = some seq)
    (hk : l.links[Live.linkOf lc.call.participant]? = some k) : seq ≤ k.channel.issued := by
  have hholds := ht.holds o i lc hcall
  obtain ⟨call, stage⟩ := lc
  cases stage with
  | numbered s =>
    cases hs
    obtain ⟨k', hk', hle, -⟩ := hholds
    cases hk.symm.trans hk'
    exact hle
  | asked s =>
    cases hs
    obtain ⟨k', hk', hle⟩ := hholds
    cases hk.symm.trans hk'
    exact hle
  | _ => cases hs

theorem worker_of_ask (ht : Tended ms n h trace l)
    (hcall : l.call? o i = some ⟨⟨p, .ask ahead q⟩, stage⟩) : p ≠ .coordinator := by
  obtain ⟨r, hr, hi⟩ := Live.call?_eq_some_iff.1 hcall
  exact (ht.tending o r hr).2.2.workers i p ahead q stage hi

/-- A call ends that leaves nothing behind, or whose time is up. -/
theorem ends (ht : Tended ms n h trace l) (hcall : l.call? o i = some lc)
    {x : Except FailureKind Answer}
    (hset : ∀ t, lc.call.token? = some t →
      (∃ limit, x = .error (.timedOut limit)) ∨ (l.ledger trace).Settled t.messageId) :
    Tended ms n h trace (l.modifyOp o (·.ending i x)) := by
  have hended : ∀ r : Running, ∀ e ∈ r.ended, e ∈ (r.ending i x).ended := by
    intro r e he
    cases hi : r.calls[i]? with
    | none =>
      rw [Running.ending, hi]
      exact he
    | some lc =>
      rw [Asking.ending_eq hi]
      exact List.mem_append_left _ he
  have haim : ∀ r : Running, (r.ending i x).aim = r.aim := by
    intro r
    rw [Running.ending]
    cases r.calls[i]? <;> rfl
  refine ht.modifyOp hcall (fun r => Asking.calls_ending r i x) haim hended ?_ trivial
    fun _ hs => by cases hs
  intro r w t hr hiw htok
  obtain ⟨w', sql, hiw', -, hcall'⟩ := ht.poses hcall htok
  obtain rfl : w' = w := Nat.succ.inj (hiw'.symm.trans hiw)
  rcases hset t htok with ⟨limit, hx⟩ | hset
  · obtain ⟨r', hr', hi⟩ := Live.call?_eq_some_iff.1 hcall
    cases hr.symm.trans hr'
    refine .inl ⟨limit, ?_⟩
    rw [Asking.ending_eq hi, hcall', hx]
    exact List.mem_append_right _ (List.mem_singleton_self _)
  · exact .inr hset

/-- There is nothing under the token of a call that has not sent its request. -/
theorem unused (ht : Tended ms n h trace l) (hcall : l.call? o i = some lc)
    (hs : lc.stage = .fresh ∨ ∃ seq, lc.stage = .numbered seq) (htok : lc.call.token? = some t) :
    t.messageId ∉ (l.ledger trace).ids := by
  obtain ⟨w, sql, rfl, -, -⟩ := ht.poses hcall htok
  obtain ⟨r, -, hstands⟩ := ht.stands hcall htok
  rcases hs with hs | ⟨seq, hs⟩
  · rw [hs] at hstands
    exact hstands
  · rw [hs] at hstands
    exact hstands

theorem fails (ht : Tended ms n h trace l) (hcall : l.call? o i = some lc)
    (hs : lc.stage = .fresh) (x : Except FailureKind Answer) :
    Tended ms n h trace (l.modifyOp o (·.ending i x)) :=
  ht.ends hcall fun _ htok => .inr (Ledger.settled_of_notMem (ht.unused hcall (.inl hs) htok))

theorem own (ht : Tended ms n h trace l) (o i : Nat) : Tended ms n h trace (l.own o i) := by
  unfold Live.own
  split
  · next hcall => exact ht.fails hcall rfl _
  · exact ht

theorem prepare (ht : Tended ms n h trace l) (o i : Nat) : Tended ms n h trace (l.prepare o i) := by
  unfold Live.prepare
  split
  · next p ahead request hcall =>
    cases hsend : l.cluster.sendShare p ahead with
    | error e => exact ht.fails hcall rfl _
    | ok cluster =>
      dsimp only
      split
      · exact ht.fails hcall rfl _
      · next k hk =>
        obtain ⟨m, rfl, hm⟩ := ht.staffed.sendShare (fun _ => ht.worker_of_ask hcall) hsend
        have hlink := modify_of_getElem? hk ({ · with channel := k.channel.issue.2 })
        have hafter : Tended ms n h trace
            { l with
              cluster := { l.cluster with net := m }
              links := l.links.modify (Live.linkOf p)
                ({ · with channel := k.channel.issue.2 }) } := by
          rw [hlink]
          exact ht.of_steps (ht.staffed.withNet hm) (Nat.le_refl _)
            (ht.ordered.hear hk k.channel.issue.2 rfl (Nat.le_succ _) fun _ hm => hm) ht.strays
        refine hafter.modifyOp hcall (fun _ => rfl) (fun _ => rfl) (fun _ _ he => he) ?_ ?_ ?_
        · intro r w t _ hiw htok
          exact hafter.unused hcall (.inl rfl) htok
        · have hlt := (List.getElem?_eq_some_iff.1 hk).1
          refine ⟨{ k with channel := k.channel.issue.2 }, ?_, Nat.le_refl _, fun hmem => ?_⟩
          · show (l.links.modify _ _)[Live.linkOf p]? = _
            rw [hlink, List.getElem?_set_self hlt]
          · exact absurd (ht.ordered.issued _ k hk _ hmem) (Nat.not_succ_le_self _)
        · intro seq hseq o' i' lc' hcall' hs' hsame
          cases hseq
          rw [← hsame] at hk
          exact absurd (ht.number_le hcall' hs' hk) (Nat.not_succ_le_self _)
  · exact ht

/-- A request for a result is that of a token of its operation. -/
theorem query_of_messageId (ht : Tended ms n h trace l) {id : MessageId}
    (hcall : l.call? o i = some ⟨⟨p, .ask ahead request⟩, stage⟩)
    (hid : request.messageId? = some id) :
    ∃ t w sql, h.Owns t o i ∧ i = w + 1 ∧ id = t.messageId ∧ p = ⟨w + 1⟩ ∧
      request = .runQuery t t.messageId sql := by
  cases request with
  | runQuery t id' sql =>
    cases hid
    obtain ⟨w, sql', hi, howns, he⟩ := ht.poses hcall (t := t) rfl
    cases he
    exact ⟨t, w, sql, howns, hi, rfl, rfl, rfl⟩
  | _ => cases hid

/-- A call whose request is about to be sent is one that waits. -/
theorem ask (ht : Tended ms n h trace l)
    (hcall : l.call? o i = some ⟨⟨p, .ask ahead request⟩, .numbered seq⟩)
    (hk : l.links[Live.linkOf p]? = some k) (hle : seq ≤ k.channel.issued)
    (hnew : seq ∉ k.numbers) :
    Tended ms n h trace (l.modifyOp o (·.withStage i (.asked seq))) := by
  refine ht.modifyOp hcall (fun _ => rfl) (fun _ => rfl) (fun _ _ he => he) ?_ ⟨k, hk, hle⟩ ?_
  · intro r w t _ hiw htok j hj
    obtain ⟨w', sql, hiw', -, hp⟩ := ht.poses hcall htok
    obtain rfl : w' = w := Nat.succ.inj (hiw'.symm.trans hiw)
    cases hp
    cases hk.symm.trans hj
    exact Ledger.awaits_of_notMem hnew
  · intro s hs o' i' lc' hcall' hs' hsame
    exact ht.apart o' i' lc' o i _ s hcall' hcall hs' hs hsame

/-- The request of a call that waits under a new number enters the queue of its worker. -/
theorem queue (ht : Tended ms n h trace l)
    (hcall : l.call? o i = some ⟨⟨p, .ask ahead request⟩, .asked seq⟩)
    (hk : l.links[Live.linkOf p]? = some k) (hle : seq ≤ k.channel.issued)
    (hnew : seq ∉ k.numbers)
    (hunused : ∀ id, request.messageId? = some id → id ∉ (l.ledger trace).ids) :
    Tended ms n h trace
      { l with links := l.links.set (Live.linkOf p) (Traffic.queued k seq request) } := by
  -- no other call has this number at this worker
  have hsame : ∀ o' i' lc', l.call? o' i' = some lc' → lc'.stage.number? = some seq →
      Live.linkOf lc'.call.participant = Live.linkOf p →
      lc' = ⟨⟨p, .ask ahead request⟩, .asked seq⟩ := by
    intro o' i' lc' hother hs hlink
    obtain ⟨rfl, rfl⟩ := ht.apart o' i' lc' o i _ seq hother hcall hs rfl hlink
    exact Option.some.inj (hother.symm.trans hcall)
  have hafter : Tended ms n h (trace ++ ([] : List CacheRequest).map (Event.send o i, ·))
      { l with links := l.links.set (Live.linkOf p) (Traffic.queued k seq request) } := by
    refine ht.serveAll_of_stands ?_ (Nat.le_refl _) ?_ ?_ ?_ ?_ ?_ ?_ ?_
    · rw [List.append_nil]
      exact ht.staffed
    · rw [List.length_set]
      exact ht.links
    · refine ht.ordered.send hk hle hunused fun t id sql hr => ?_
      subst hr
      obtain ⟨t', w, sql', -, -, rfl, -, he⟩ := ht.query_of_messageId hcall rfl
      cases he
      rfl
    · intro t hno hm
      refine (Ledger.mem_ids_queued (f := l.ledger trace) hk hm).resolve_right fun hr => ?_
      obtain ⟨t', w, sql, -, -, hid, -, rfl⟩ := ht.query_of_messageId hcall hr
      obtain rfl := CorrelationToken.messageId_injective hid
      exact hno o i _ hcall rfl
    · intro o' r w lc' t hr hi htok hs
      have hother := Live.call?_eq_some_iff.2 ⟨r, hr, hi⟩
      obtain ⟨w', sql, hw', howns, hp⟩ := ht.poses hother htok
      obtain rfl : w = w' := Nat.succ.inj hw'
      by_cases hid : request.messageId? = some t.messageId
      · -- the token is that of the request, and so the call is the one that sends it
        obtain ⟨t', w', sql', howns', rfl, he, rfl, rfl⟩ := ht.query_of_messageId hcall hid
        obtain rfl := CorrelationToken.messageId_injective he
        obtain ⟨rfl, hww⟩ := howns.unique ht.distinct howns'
        obtain rfl := Nat.succ.inj hww
        cases hother.symm.trans hcall
        exact Ledger.stands_queued_self (f := l.ledger trace) (w := w) hnew sql'
      · refine Ledger.stands_queued (f := l.ledger trace) hk hid hs fun hww hstage => hid ?_
        have he := hsame o' _ lc' hother (by rw [hstage]; rfl) (by rw [hp, hww]; rfl)
        rw [he] at hp
        cases hp
        rfl
    · intro o' i' lc' hother hs
      refine Ledger.holds_queued (f := l.ledger trace) hk hs fun hlink hstage => ?_
      have he := hsame o' i' lc' hother (by rw [hstage]; rfl) hlink
      rw [he] at hstage
      cases hstage
    · rw [List.append_nil]
      exact ht.strays
    · intro id hm
      cases hm
  rw [List.map_nil, List.append_nil] at hafter
  exact hafter

theorem send (ht : Tended ms n h trace l) (o i : Nat) : Tended ms n h trace (l.send o i) := by
  unfold Live.send
  split
  · next p ahead request seq hcall =>
    obtain ⟨k, hk, hle, hnew⟩ := ht.holds o i _ hcall
    have hk' : l.links[Live.linkOf p]? = some k := hk
    simp only [ht.isAlive hk']
    split
    · next hdead => cases hdead
    · rw [hk']
      dsimp only
      split
      · rw [Live.modifyLink, modify_of_getElem? hk']
        have hasked : (l.modifyOp o (·.withStage i (.asked seq))).call? o i =
            some ⟨⟨p, .ask ahead request⟩, .asked seq⟩ :=
          Live.call?_modifyOp hcall fun _ => rfl
        refine (ht.ask hcall hk' hle hnew).queue hasked hk' hle hnew fun id hid => ?_
        obtain ⟨t, w, sql, -, -, rfl, -, rfl⟩ := ht.query_of_messageId hcall hid
        exact ht.unused hcall (.inr ⟨seq, rfl⟩) rfl
      · exact ht
  · exact ht

theorem serve (ht : Tended ms n h trace l) (w : Nat) : Tended ms n h trace (l.serve w) := by
  unfold Live.serve
  split
  · next channel seq r inbox outbox worker hk hw =>
    have hlt := (List.getElem?_eq_some_iff.1 hk).1
    rw [ht.links] at hlt
    obtain ⟨e, rfl, he⟩ := ht.staffed.worker w worker hw
    obtain ⟨e', m, progress, hstart, he', hm, hsuits⟩ :=
      ht.staffed.net.start he hlt (Nat.succ_ne_zero w) l.cluster.files r
    have hstaffed := ht.staffed.withWorker he' hm
    simp only [hstart]
    cases hsuits with
    | ran => exact ht.of_steps hstaffed (Nat.le_refl _) (ht.ordered.run hk _ _) ht.strays
    | failed x =>
      exact ht.of_steps hstaffed (Nat.le_refl _) (ht.ordered.answer hk (.inr ⟨x, rfl⟩)) ht.strays
    | did hr => exact ht.of_steps hstaffed (Nat.le_refl _) (ht.ordered.answer hk (.inl hr)) ht.strays
  · exact ht

theorem silent (ht : Tended ms n h trace l) (e : Event) :
    Tended ms n h (trace ++ ([] : List CacheRequest).map (e, ·)) l := by
  rw [List.map_nil, List.append_nil]
  exact ht

/-- No result is refused, since none is written twice. -/
theorem deliver (ht : Tended ms n h trace l) (w : Nat) :
    Tended ms n h (trace ++ (l.requests (.deliver w)).map (.deliver w, ·)) (l.deliver w) := by
  rcases hk : l.links[w]? with _ | ⟨channel, inbox, _ | job, outbox⟩
  · simp only [Live.deliver, Live.requests, hk]
    exact ht.silent _
  · simp only [Live.deliver, Live.requests, hk]
    exact ht.silent _
  · have hlt := (List.getElem?_eq_some_iff.1 hk).1
    rw [ht.links] at hlt
    obtain ⟨e, hw, he⟩ := ht.worker_eq hlt
    obtain ⟨m, reply, hdeliver, hm, hreply⟩ :=
      ht.staffed.net.deliver he job.token job.id job.batch
    have hunwritten : job.id ∉ written (trace.map Prod.snd) :=
      ht.ordered.notMem_written hk (List.mem_cons_self ..)
    obtain rfl := hreply (PartitionCache.contains_serveAll rfl hunwritten)
    simp only [Live.deliver, Live.requests, hk, hw, hdeliver]
    refine ht.serveAll_of_steps ?_ (Nat.le_refl _) (ht.ordered.deliver hk) ?_ ?_
    · rw [PartitionCache.serveAll_append]
      exact ht.staffed.withNet hm
    · intro id hid
      rw [written_append]
      exact List.mem_append_left _ (ht.strays id hid)
    · intro id hid
      cases List.mem_singleton.1 hid

theorem answerCall (ht : Tended ms n h trace l) (p : ParticipantId)
    (hcall : l.call? o i = some lc) (reply : Reply)
    (hran : ∀ t, lc.call.token? = some t → reply = .queryRan t t.messageId →
      t.messageId ∈ written (trace.map Prod.snd))
    (hrefused : ∀ t, lc.call.token? = some t → reply ≠ .queryRan t t.messageId →
      t.messageId ∉ (l.ledger trace).ids) :
    Tended ms n h trace (l.answerCall p o i reply) := by
  obtain ⟨⟨q, task⟩, stage⟩ := lc
  cases task with
  | own result =>
    simp only [Live.answerCall, hcall]
    exact ht
  | ask ahead r =>
    simp only [Live.answerCall, hcall]
    split
    · next e herror =>
      refine ht.ends hcall fun t htok => .inr (Ledger.settled_of_notMem (hrefused t htok ?_))
      rintro rfl
      obtain ⟨w, sql, -, -, he⟩ := ht.poses hcall htok
      cases he
      have hcheck : (Request.runQuery t t.messageId sql).check p (.queryRan t t.messageId) =
          .ok () := if_pos rfl
      cases hcheck.symm.trans herror
    · next hok =>
      split
      · next token id sql =>
        have htok : Call.token? ⟨q, .ask ahead (.runQuery token id sql)⟩ = some token := rfl
        obtain ⟨w, sql', -, -, he⟩ := ht.poses hcall htok
        cases he
        refine ht.modifyOp hcall (fun _ => rfl) (fun _ => rfl) (fun _ _ he => he) ?_ trivial
          fun _ hs => by cases hs
        intro r w' t _ _ htok'
        cases htok'
        exact hran token htok (Orderly.reply_of_check hok)
      · next hno =>
        refine ht.ends hcall fun t htok => ?_
        cases r with
        | runQuery token id sql => exact absurd rfl (hno token id sql)
        | _ => cases htok

theorem receive (ht : Tended ms n h trace l) (w : Nat) : Tended ms n h trace (l.receive w) := by
  unfold Live.receive
  split
  · next channel inbox job seq reply outbox hk =>
    have hsteps : ∀ channel', channel'.worker = channel.worker →
        channel.issued ≤ channel'.issued → (l.ledger trace).Steps
          ((l.ledger trace).after w ⟨channel', inbox, job, outbox⟩ []) :=
      fun channel' hworker hle =>
        ht.ordered.hear hk channel' hworker hle fun _ hm => List.mem_cons_of_mem _ hm
    have hpop : ∀ channel', channel'.worker = channel.worker →
        channel.issued ≤ channel'.issued →
          Tended ms n h trace { l with links := l.links.set w ⟨channel', inbox, job, outbox⟩ } :=
      fun channel' hworker hle =>
        ht.of_steps ht.staffed (Nat.le_refl _) (hsteps channel' hworker hle) ht.strays
    dsimp only
    split
    · split
      · next o i hwaiting =>
        obtain ⟨lc, hcall, hstage, hp⟩ := Live.call?_of_waiting? ht.numbers hwaiting
        -- the reply is under the number of the call, so that it is for its query
        have hawaits : ∀ t, lc.call.token? = some t → (l.ledger trace).Awaits
            ⟨channel, inbox, job, (seq, reply) :: outbox⟩ seq t := by
          intro t htok
          obtain ⟨w', sql, rfl, -, he⟩ := ht.poses hcall htok
          obtain ⟨r, -, hs⟩ := ht.stands hcall htok
          rw [hstage] at hs
          have hww : w' = w := by
            have hworker := ht.ordered.worker w _ hk
            rw [he] at hp
            cases hp.trans hworker
            rfl
          subst hww
          exact hs _ hk
        refine (hpop (channel.settle seq) rfl (Nat.le_refl _)).answerCall _ hcall reply
          (fun t htok hran => ?_) fun t htok hrefused hid => ?_
        · exact (hawaits t htok).ran _ (List.mem_cons_self ..) rfl hran
        · refine (hawaits t htok).refused _ (List.mem_cons_self ..) rfl hrefused ?_
          refine (hsteps (channel.settle seq) rfl (Nat.le_refl _)).ids _ ?_
          rw [Ledger.after, List.append_nil]
          exact hid
      · exact hpop _ rfl (Nat.le_refl _)
    · exact hpop _ rfl (Nat.le_refl _)
  · exact ht

theorem written_of_pulling (ht : Tended ms n h trace l) (hcall : l.call? o i = some lc)
    (hs : lc.stage = .pulling) (htok : lc.call.token? = some t) :
    t.messageId ∈ written (trace.map Prod.snd) := by
  obtain ⟨w, sql, rfl, -, -⟩ := ht.poses hcall htok
  obtain ⟨r, -, hstands⟩ := ht.stands hcall htok
  rw [hs] at hstands
  exact hstands

/-- The cache serves the pull of an id that was written. -/
theorem pulled (ht : Tended ms n h trace l) {id : MessageId} {m : Interconnect}
    (hwritten : id ∈ written (trace.map Prod.snd))
    (hm : m.Houses ms n ((PartitionCache.serveAll (.empty .coordinator)
      (trace.map Prod.snd)).serve (.pull id)))
    {strays : List MessageId} (hstrays : ∀ i ∈ strays, i ∈ l.strays) (e : Event) :
    Tended ms n h (trace ++ [CacheRequest.pull id].map (e, ·))
      { l with cluster := { l.cluster with net := m }, strays } := by
  refine ht.serveAll_of_steps ?_ (Nat.le_refl _) (ht.ordered.ask rfl ?_) ?_ ?_
  · rw [PartitionCache.serveAll_append]
    exact ht.staffed.withNet hm
  · intro i hi
    cases List.mem_singleton.1 hi
    exact hwritten
  · intro i hi
    rw [written_append]
    exact List.mem_append_left _ (ht.strays i (hstrays i hi))
  · intro i hi
    cases List.mem_singleton.1 hi

theorem pull (ht : Tended ms n h trace l) (o i : Nat) :
    Tended ms n h (trace ++ (l.requests (.pull o i)).map (.pull o i, ·)) (l.pull o i) := by
  unfold Live.pull
  split
  · next p ahead r hcall =>
    cases r with
    | runQuery token id sql =>
      have htok : Call.token? ⟨p, .ask ahead (.runQuery token id sql)⟩ = some token := rfl
      obtain ⟨w, sql', -, -, he⟩ := ht.poses hcall htok
      cases he
      have hwritten := ht.written_of_pulling hcall rfl htok
      obtain ⟨m, hcollect, hm⟩ := ht.staffed.collect token token.messageId sql
      have hpulled := ht.pulled hwritten hm (fun _ hid => hid) (.pull o i)
      simp only [Live.requests, hcall, hcollect]
      refine hpulled.ends hcall fun t ht' => .inr fun _ => .inl ?_
      cases ht'
      rw [Live.ledger, map_snd_noted]
      exact List.mem_append_right _ (List.mem_singleton_self _)
    | _ =>
      simp only [Live.requests, hcall]
      refine (ht.ends hcall fun t htok => ?_).silent _
      cases htok
  · next hno =>
    simp only [Live.requests]
    split
    · next hcall => exact absurd hcall (hno _ _ _)
    · exact ht.silent _

theorem expire (ht : Tended ms n h trace l) (o i : Nat) : Tended ms n h trace (l.expire o i) := by
  unfold Live.expire
  split
  · next limit lc hlimit hcall =>
    dsimp only
    split
    · exact ht
    · next ahead token id sql hstage htask =>
      have htok : lc.call.token? = some token := by
        rw [Call.token?, htask]
        rfl
      obtain ⟨w, sql', -, -, he⟩ := ht.poses hcall htok
      rw [he] at htask
      cases htask
      have hstray : Tended ms n h trace { l with strays := l.strays ++ [token.messageId] } := by
        refine ht.of_steps ht.staffed (Nat.le_refl _) (ht.ordered.ask rfl fun _ hm => by cases hm) ?_
        intro id hid
        rcases List.mem_append.1 hid with hid | hid
        · exact ht.strays id hid
        · cases List.mem_singleton.1 hid
          exact ht.written_of_pulling hcall hstage htok
      exact hstray.ends hcall fun _ _ => .inl ⟨limit, rfl⟩
    · exact ht.ends hcall fun _ _ => .inl ⟨limit, rfl⟩
  · exact ht

theorem stray (ht : Tended ms n h trace l) (k : Nat) :
    Tended ms n h (trace ++ (l.requests (.stray k)).map (.stray k, ·)) (l.stray k) := by
  cases hk : l.strays[k]? with
  | none =>
    simp only [Live.stray, Live.requests, hk]
    exact ht.silent _
  | some id =>
    have hwritten := ht.strays id (List.mem_of_getElem? hk)
    simp only [Live.stray, Live.requests, hk]
    rcases ht.staffed.net.pull ht.staffed.own id with ⟨b, m, hp, hm⟩ | ⟨x, hp, hc⟩
    · rw [hp]
      exact ht.pulled hwritten hm (fun _ => List.mem_of_mem_eraseIdx) (.stray k)
    · rw [hp]
      refine ht.pulled (m := l.cluster.net) hwritten ?_ (fun _ => List.mem_of_mem_eraseIdx) (.stray k)
      rw [hc]
      exact ht.staffed.net

theorem lookup_begun (ht : Tended ms n h trace l) : l.drafts.lookup l.begun = none := by
  cases hd : l.drafts.lookup l.begun with
  | none => rfl
  | some d => exact absurd (ht.drafting _ d hd).1 (Nat.lt_irrefl _)

theorem op?_begun (ht : Tended ms n h trace l) : l.op? l.begun = none := by
  cases hr : l.op? l.begun with
  | none => rfl
  | some r => exact absurd (ht.tending _ r hr).1 (Nat.lt_irrefl _)

theorem answers_ne_begun (ht : Tended ms n h trace l) : ∀ p ∈ l.answers, p.1 ≠ l.begun :=
  fun p hp => Nat.ne_of_lt (ht.answered p hp).1

/-- An operation is answered whose tokens leave nothing behind. -/
theorem answer (ht : Tended ms n h trace l) (hr : l.op? o = some r)
    (hset : ∀ t i, h.Owns t o i → (l.ledger trace).Settled t.messageId)
    (a : Except ClusterError Answer) : Tended ms n h trace (l.answer o a) := by
  have hlook : ∀ m, (l.running.filter (·.1 ≠ o)).lookup m = if m = o then none else l.op? m :=
    lookup_filter_ne l.running o
  have hgone : Tended ms n h trace { l with running := l.running.filter (·.1 ≠ o) } := by
    refine ht.withRunning (ht.numbers.sublist (List.filter_sublist.map Prod.fst)) ?_ ?_
    · intro m r' hm
      rw [hlook] at hm
      split at hm
      · cases hm
      · exact .inl hm
    · intro m d hd
      refine ⟨hd, ?_⟩
      rw [hlook, (ht.drafting m d hd).2.1]
      split <;> rfl
  have hdraft : l.drafts.lookup o = none := by
    cases hd : l.drafts.lookup o with
    | none => rfl
    | some d => cases (ht.drafting o d hd).2.1.symm.trans hr
  refine hgone.withAnswer (ht.tending o r hr).1 ?_ hdraft hset a
  exact (hlook o).trans (if_pos rfl)

/-- An operation goes on with calls that undo what it did. -/
theorem undo (ht : Tended ms n h trace l) (hr : l.op? o = some r) {calls : List Call}
    (hc : ∀ call ∈ calls, call.Plain) (hn : ∀ t w, ¬ h.Owns t o (w + 1)) (now : Nat)
    (a : Except ClusterError Answer) :
    Tended ms n h trace (l.modifyOp o fun _ => .fresh calls now (.give a)) := by
  obtain ⟨hlt, hans, -⟩ := ht.tending o r hr
  have hlook := Live.op?_modifyOp l o fun _ => .fresh calls now (.give a)
  have hnumbers := ht.numbers
  rw [← Live.numbers_modifyOp l o fun _ => .fresh calls now (.give a)] at hnumbers
  refine ht.withRunning hnumbers ?_ ?_
  · intro m r' hm
    have hm' := (hlook m).symm.trans hm
    split at hm'
    · next hmo =>
      subst hmo
      rw [hr] at hm'
      cases hm'
      refine .inr ⟨hlt, hans, Ledger.tends_plain hc hn (fun _ he => by cases he), ?_⟩
      intro i lc hi
      rw [Running.fresh, List.getElem?_map, Option.map_eq_some_iff] at hi
      obtain ⟨call, -, rfl⟩ := hi
      rfl
    · exact .inl hm'
  · intro m d hd
    refine ⟨hd, (hlook m).trans ?_⟩
    rw [(ht.drafting m d hd).2.1]
    split <;> rfl

theorem mem_failures {ended : List (ParticipantId × Except FailureKind Answer)}
    (he : (p, .error x) ∈ ended) : ⟨p, x⟩ ∈ (Outcome.ofEnded ended).failures :=
  List.mem_mergeSort.2 (List.mem_filterMap.2 ⟨_, he, rfl⟩)

/-- Once all calls of an operation have ended and what came too late is given up, nothing is left. -/
theorem settled_of_ended (ht : Tended ms n h trace l) (hr : l.op? o = some r)
    (hall : r.allEnded = true)
    (hlate : ∀ ids p limit id, r.aim = .conclude (.queried ids) →
      (p, .error (.timedOut limit)) ∈ r.ended → ids.lookup p = some id →
      .discard id ∈ trace.map Prod.snd)
    (t : CorrelationToken) (i : Nat) (howns : h.Owns t o i) :
    (l.ledger trace).Settled t.messageId := by
  obtain ⟨-, -, htends⟩ := ht.tending o r hr
  cases i with
  | zero => exact Ledger.settled_of_notMem (ht.first t o howns)
  | succ w =>
    obtain ⟨⟨lc, hi, htok⟩, ids, haim, hid⟩ := htends.covers t w howns
    have hstage : lc.stage = .ended :=
      of_decide_eq_true (List.all_eq_true.1 hall lc (List.mem_of_getElem? hi))
    have hstands := htends.stands w lc t hi htok
    rw [hstage] at hstands
    rcases hstands with ⟨limit, he⟩ | hset
    · exact fun _ => .inr (hlate ids _ limit _ haim he hid)
    · exact hset

/-- As an operation ends, it gives up what came too late. -/
theorem giveUp (ht : Tended ms n h trace l) (hr : l.op? o = some r) {goal : Goal}
    (haim : r.aim = .conclude goal) :
    Tended ms n h
      (trace ++ ((goal.lateIds (Outcome.ofEnded r.ended).failures).map
        CacheRequest.discard).map (.conclude o, ·))
      { l with cluster := (l.cluster.conclude (.ofEnded r.ended) goal).1 } := by
  obtain ⟨-, -, htends⟩ := ht.tending o r hr
  obtain ⟨hstaffed, htokens, -⟩ := ht.staffed.conclude (.ofEnded r.ended) goal
  have hmem : ∀ q ∈ (goal.lateIds (Outcome.ofEnded r.ended).failures).map
      CacheRequest.discard, ∃ id ∈ goal.lateIds (Outcome.ofEnded r.ended).failures,
        CacheRequest.discard id = q := fun q hq => List.mem_map.1 hq
  refine ht.serveAll_of_steps ?_ (Nat.le_of_eq (congrArg TokenIssuer.issued htokens).symm)
    (ht.ordered.ask ?_ ?_) ?_ ?_
  · rw [PartitionCache.serveAll_append]
    exact hstaffed
  · refine List.filterMap_eq_nil_iff.2 fun q hq => ?_
    obtain ⟨id, -, rfl⟩ := hmem q hq
    rfl
  · intro id hid
    obtain ⟨_, -, he⟩ := hmem _ hid
    cases he
  · intro id hid
    rw [written_append]
    exact List.mem_append_left _ (ht.strays id hid)
  · intro id hid
    obtain ⟨_, hlate, he⟩ := hmem _ hid
    cases he
    cases goal with
    | queried issued =>
      obtain ⟨f, -, hf⟩ := List.mem_filterMap.1 hlate
      split at hf
      · obtain ⟨t, i, howns, he⟩ := htends.aim issued _ id haim hf
        exact ⟨o, t, i, rfl, howns, he⟩
      · cases hf
    | _ => cases hlate

/-- An operation that breaks off has nothing that came too late. -/
theorem lateIds_of_breaksOff {outcome : Outcome Answer} {goal : Goal}
    (h : Cluster.breaksOff outcome goal = true) : goal.lateIds outcome.failures = [] := by
  cases goal with
  | queried issued =>
    obtain ⟨hcomplete, -⟩ := Bool.and_eq_true_iff.1 h
    rw [List.isEmpty_iff.1 hcomplete]
    rfl
  | _ => cases h

theorem conclude (ht : Tended ms n h trace l) (o : Nat) :
    Tended ms n h (trace ++ (l.requests (.conclude o)).map (.conclude o, ·)) (l.conclude o) := by
  cases hr : l.op? o with
  | none =>
    simp only [Live.conclude, Live.requests, hr]
    exact ht.silent _
  | some r =>
    obtain ⟨-, -, htends⟩ := ht.tending o r hr
    cases hall : r.allEnded with
    | false =>
      simp only [Live.conclude, Live.requests, hr, hall]
      exact ht.silent _
    | true =>
      cases haim : r.aim with
      | give a =>
        simp only [Live.conclude, Live.requests, hr, hall, haim]
        refine (ht.answer hr (ht.settled_of_ended hr hall ?_) a).silent _
        intro ids p limit id he
        cases haim.symm.trans he
      | conclude goal =>
        obtain ⟨-, -, hundo, hqueried⟩ := ht.staffed.conclude (.ofEnded r.ended) goal
        have hgiven := ht.giveUp hr haim
        simp only [Live.conclude, Live.requests, hr, hall, haim, Bool.not_true, Bool.false_eq_true,
          if_false]
        split
        · next hoff =>
          rw [lateIds_of_breaksOff hoff]
          exact ht.silent _
        · split
          · refine hgiven.answer hr (hgiven.settled_of_ended hr hall ?_) _
            intro ids p limit id he hended hid
            cases haim.symm.trans he
            rw [map_snd_noted]
            refine List.mem_append_right _ (List.mem_map.2 ⟨id, ?_, rfl⟩)
            exact List.mem_filterMap.2 ⟨_, mem_failures hended, hid⟩
          · next hsome =>
            refine hgiven.undo hr hundo (fun t w howns => hsome ?_) l.now _
            obtain ⟨-, ids, he, -⟩ := htends.covers t w howns
            cases haim.symm.trans he
            rw [hqueried ids rfl]
            rfl

end Tended

end ShardQuery
