import ShardQuery.Proofs.Cluster.Orderly

namespace ShardQuery

open Traffic

namespace Orderly

variable {c : Cluster} {es : Nat → Engine} {h : History} {l : Live} {cache : PartitionCache}
  {lc : LiveCall}

theorem tick (ho : Orderly c es h l cache) (ms : Nat) :
    Orderly c es h { l with now := l.now + ms } cache :=
  { ho with }

/-- All workers live, so that no channel closes. -/
theorem close (hc : c.Hosts es) (ho : Orderly c es h l cache) (w : Nat) :
    Orderly c es h (l.close w) cache := by
  unfold Live.close
  split
  · next hk =>
    have hw : w < c.workers.length := by
      rw [← ho.links]
      exact (List.getElem?_eq_some_iff.1 hk).1
    rw [if_pos (ho.isAlive hc hw)]
    exact ho
  · exact ho

theorem wants_of_stands {f : Traffic} {t : CorrelationToken} {s : Stage} (hs : s ≠ .ended)
    (hf : f.Stands t s) : f.Wants t := by
  cases s with
  | fresh => exact hf.wants
  | numbered => exact hf.wants
  | asked => exact hf.1
  | pulling => exact hf.1
  | ended => exact absurd rfl hs

theorem messageId_ne {t u : CorrelationToken} (hu : some t ≠ some u) :
    u.messageId ≠ t.messageId := by
  intro he
  rw [CorrelationToken.messageId_injective he] at hu
  exact hu rfl

/-- A pull that nobody waits for takes nothing that anybody wants. -/
theorem stray (hc : c.Hosts es) (ho : Orderly c es h l cache) (k : Nat) :
    ∃ d, Orderly c es h (l.stray k) d := by
  cases hk : l.strays[k]? with
  | none =>
    have hstray : l.stray k = l := by rw [Live.stray, hk]
    rw [hstray]
    exact ⟨cache, ho⟩
  | some id =>
    have hid := List.mem_of_getElem? hk
    have hwants : ∀ t, (l.traffic cache).Wants t → t.messageId ∉ l.strays.eraseIdx k ∧
        t.messageId ≠ id := by
      intro t hw
      refine ⟨fun hm => hw.1 (List.mem_of_mem_eraseIdx hm), ?_⟩
      rintro rfl
      exact hw.1 hid
    cases hp : cache.pull id with
    | error x =>
      have hstray : l.stray k = { l with strays := l.strays.eraseIdx k } := by
        simp only [Live.stray, hk, ho.own_eq, hc.pull_eq_error ho.caches hp]
      rw [hstray]
      refine ⟨cache, ho.withTraffic ho.caches ho.links (ho.accounted.withCache _ fun _ _ hp => hp) ?_⟩
      intro t s hs
      exact (still_withCache rfl fun hw => ⟨(hwants t hw).1, hw.2⟩).stands hs
    | ok q =>
      obtain ⟨p, d⟩ := q
      obtain ⟨m, hm, hcaches⟩ := hc.pull_eq_ok ho.caches hp
      obtain ⟨-, hd⟩ := PartitionCache.pull_eq_ok hp
      have hstray : l.stray k =
          { l with cluster := { l.cluster with net := m }, strays := l.strays.eraseIdx k } := by
        simp only [Live.stray, hk, ho.own_eq, hm]
      rw [hstray]
      refine ⟨d, ho.withTraffic hcaches ho.links (ho.accounted.withCache _ ?_) ?_⟩
      · intro i p hi
        rw [hd] at hi
        exact FiniteMap.find?_of_erase hi
      · intro t s hs
        by_cases hend : s = .ended
        · subst hend
          trivial
        · obtain ⟨hstrays, hne⟩ := hwants t (wants_of_stands hend hs)
          refine Still.stands (still_withCache ?_ fun hw => ⟨hstrays, ?_⟩) hs
          · simp [hd, hne]
            rfl
          · rw [hd]
            exact hw.2

/-- A worker that takes up a query has its result to deliver, or it refuses. -/
theorem start_runQuery (files : FileStore) (net : Interconnect) (e : Engine)
    (t : CorrelationToken) (id : MessageId) (sql : String) :
    (Worker.serving e).start files net (.runQuery t id sql) =
      (.serving e, net, match e.prepare sql >>= Engine.Prepared.run with
        | .ok b => .delivering t id b
        | .error x => .replied (Worker.refusal x)) := by
  have hbegin : (Worker.serving e).begin? files net (.runQuery t id sql) =
      (e.prepare sql >>= Engine.Prepared.run).map fun b =>
        (.serving e, net, .delivering t id b) := by
    show (e.prepare sql >>= fun p => p.run >>= fun b => _) = _
    cases e.prepare sql with
    | error x => rfl
    | ok p =>
      rw [Except.ok_bind, Except.ok_bind]
      cases p.run <;> rfl
  cases hp : e.prepare sql >>= Engine.Prepared.run with
  | error x =>
    rw [hp] at hbegin
    exact Worker.start_of_error hbegin
  | ok b =>
    rw [hp] at hbegin
    rw [Worker.start, hbegin]
    rfl

theorem serve (hc : c.Hosts es) (ho : Orderly c es h l cache) (w : Nat) :
    Orderly c es h (l.serve w) cache := by
  unfold Live.serve
  split
  · next channel seq r inbox outbox worker hk hw =>
    obtain ⟨-, rfl⟩ := ho.worker_eq hc hw
    obtain ⟨t, o, sql, hasks⟩ := ho.accounted.inbox w _ hk (seq, r) (List.mem_cons_self ..)
    have honce := ho.accounted.once w _ hk
    obtain rfl : r = _ := hasks.request
    have hlen : ∀ k, (l.links.set w k).length = c.workers.length := fun k => by
      rw [List.length_set, ho.links]
    have hinbox : ∀ m ∈ inbox, ∃ t o sql, Asks h w m.2 t o sql := fun m hm =>
      ho.accounted.inbox w _ hk m (List.mem_cons_of_mem _ hm)
    simp only [start_runQuery, set_of_getElem? hw]
    cases hp : (es (w + 1)).prepare sql >>= Engine.Prepared.run with
    | error x =>
      -- the query is gone from the worker, which says nothing under its token
      have hout : ∀ m ∈ outbox ++ [(seq, Worker.refusal x)], ∀ t id, m.2 = .queryRan t id →
          m ∈ outbox := by
        intro m hm t id he
        rcases List.mem_append.1 hm with hm | hm
        · exact hm
        · cases List.mem_singleton.1 hm
          cases he
      refine ho.withTraffic ho.caches (hlen _) (ho.accounted.withLink hk hinbox ?_ ?_ ?_ hout) ?_
      · intro j hj
        cases hj
      · exact (List.nodup_cons.1 honce).2
      · exact fun t ht => .inl (List.mem_cons_of_mem _ ht)
      · intro t s hs
        refine (still_withLink hk ?_ fun m hm he => hout m hm t _ he).stands hs
        exact List.mem_cons_of_mem _
    | ok b =>
      refine ho.withTraffic ho.caches (hlen _)
        (ho.accounted.withLink hk hinbox ?_ honce (fun t ht => .inl ht) fun m hm _ _ _ => hm) ?_
      · intro j hj
        cases hj
        exact ⟨o, sql, rfl, hasks.query, hasks.owns, hp⟩
      · intro t s hs
        refine (still_withLink hk ?_ ?_).stands hs
        · exact fun ht => ht
        · exact fun m hm _ => hm
  · exact ho

theorem deliver (hc : c.Hosts es) (ho : Orderly c es h l cache) (w : Nat) :
    ∃ d, Orderly c es h (l.deliver w) d := by
  unfold Live.deliver
  split
  · next channel inbox job outbox worker hk hw =>
    obtain ⟨hlt, rfl⟩ := ho.worker_eq hc hw
    obtain ⟨d, hput, howner, hacc, hpass⟩ := ho.accounted.deliver ho.distinct hk rfl
    obtain ⟨m, hm, hcaches⟩ := hc.deliver_eq hlt ho.caches hput howner
    simp only [hm]
    refine ⟨d, ho.withTraffic hcaches ?_ hacc hpass⟩
    rw [List.length_set, ho.links]
  · exact ⟨cache, ho⟩

theorem prepare (ho : Orderly c es h l cache) (o i : Nat) :
    Orderly c es h (l.prepare o i) cache := by
  unfold Live.prepare
  split
  · next p share request hcall =>
    obtain ⟨r, sql, hr, hi, ha, hfits⟩ := ho.call_spec hcall
    obtain rfl : share = none := by
      cases hfits
      rfl
    simp only [Cluster.sendShare]
    split
    · exact ho.ending_error hcall (by simp) _ ho.links ho.accounted fun t _ s hs => hs
    · next link hk =>
      rw [Live.modifyLink, modify_of_getElem? hk]
      refine ho.modifyOp hcall ho.caches (by rw [List.length_set, ho.links]) (fun _ _ => rfl)
        (fun _ => rfl) (fun _ _ hi ha => ha.withStage hi (by simp) (by simp))
        (ho.accounted.heard hk _ fun m hm => hm)
        (fun t _ s hs => (still_heard hk _ fun m hm => hm).stands hs) fun t ht => ?_
      exact (still_heard hk _ fun m hm => hm).untouched (ho.standing o i _ hcall t ht)
  · exact ho

theorem own (ho : Orderly c es h l cache) (o i : Nat) :
    Orderly c es (h.note l (.own o i)) (l.own o i) cache := by
  unfold Live.own
  split
  · next p result hcall =>
    obtain ⟨r, sql, hr, hi, ha, hfits⟩ := ho.call_spec hcall
    cases hfits
    cases hp : part es sql 0 with
    | error x =>
      rw [hp] at hcall
      have hnote : h.note l (.own o 0) = h := by simp only [History.note, hcall]
      rw [hnote]
      exact ho.ending_error hcall (by simp) _ ho.links ho.accounted fun t _ s hs => hs
    | ok b =>
      rw [hp] at hcall
      have hnote : h.note l (.own o 0) = { h with parts := h.parts ++ [(o, 0)] } := by
        simp only [History.note, hcall]
      rw [hnote]
      exact ho.ending_rows hcall (by simp) ha.query hp ho.caches ho.accounted fun t _ s hs => hs
  · next hno =>
    have hnote : h.note l (.own o i) = h := by
      simp only [History.note]
      split
      · next p b hcall => exact absurd hcall (hno p (.ok b))
      · rfl
    rw [hnote]
    exact ho

theorem send (hc : c.Hosts es) (ho : Orderly c es h l cache) (o i : Nat) :
    Orderly c es h (l.send o i) cache := by
  unfold Live.send
  split
  · next p share request seq hcall =>
    obtain ⟨r, sql, hr, hi, ha, hfits⟩ := ho.call_spec hcall
    cases hfits with
    | ask howns =>
      rename_i t w
      have hw : Live.linkOf ⟨w + 1⟩ = w := rfl
      have hlt : w < c.workers.length := by
        have hsize := (List.getElem?_eq_some_iff.1 hi).1
        rw [ha.size] at hsize
        exact Nat.lt_of_succ_lt_succ hsize
      simp only [hw, ho.isAlive hc hlt]
      split
      · next hdead => cases hdead
      · split
        · next k hk =>
          split
          · have huntouched := ho.standing o (w + 1) _ hcall t rfl
            rw [Live.modifyLink, modify_of_getElem? hk]
            refine ho.modifyOp hcall ho.caches (by rw [List.length_set, ho.links]) (fun _ _ => rfl)
              (fun _ => rfl) (fun _ _ hi ha => ha.withStage hi (by simp) (by simp))
              (ho.accounted.queued hk huntouched howns ha.query seq) ?_ ?_
            · intro u hu s hs
              refine (still_queued hk seq sql fun he => hu ?_).stands hs
              rw [he]
              rfl
            · intro u hu
              cases hu
              refine ⟨huntouched.wants, fun hr => absurd ?_ huntouched.reports⟩
              exact reports_queued (f := l.traffic cache) hk hr
          · exact ho
        · exact ho
  · exact ho

theorem reply_of_check {reply : Reply} {id : MessageId} (hok : (Channel.meaning p reply >>= fun reply =>
    (Request.runQuery t id sql).check p reply) = .ok ()) : reply = .queryRan t id := by
  obtain ⟨reply', hm, hcheck⟩ := Except.bind_eq_ok_iff.1 hok
  obtain rfl : reply = reply' := by
    cases reply with
    | failed reason => cases hm
    | _ => exact Except.ok.inj hm
  by_contra hne
  have hno : ¬ reply = (Request.runQuery t id sql).success := hne
  unfold Request.check at hcheck
  rw [if_neg hno] at hcheck
  split at hcheck <;> cases hcheck

theorem answerCall (ho : Orderly c es h l cache) (p : ParticipantId)
    (hcall : l.call? o i = some lc) (hstage : lc.stage = .asked seq) (reply : Reply)
    (hreply : ∀ t, lc.call.token? = some t → reply = .queryRan t t.messageId →
      (l.traffic cache).Holds t) :
    Orderly c es h (l.answerCall p o i reply) cache := by
  obtain ⟨⟨q, task⟩, stage⟩ := lc
  obtain rfl : stage = .asked seq := hstage
  obtain ⟨r, sql, hr, hi, ha, hfits⟩ := ho.call_spec hcall
  have hlive : Stage.asked seq ≠ .ended := by simp
  cases hfits with
  | own =>
    have hsame : l.answerCall p o 0 reply = l := by simp only [Live.answerCall, hcall]
    rw [hsame]
    exact ho
  | ask howns =>
    rename_i t w
    simp only [Live.answerCall, hcall]
    split
    · exact ho.ending_error hcall hlive _ ho.links ho.accounted fun t _ s hs => hs
    · next hok =>
      have hran := reply_of_check hok
      refine ho.modifyOp hcall ho.caches ho.links (fun _ _ => rfl) (fun _ => rfl)
        (fun _ _ hi ha => ha.withStage hi hlive (by simp)) ho.accounted
        (fun t _ s hs => hs) fun u hu => ?_
      exact ⟨(ho.standing o _ _ hcall u hu).1, hreply u hu (by cases hu; exact hran)⟩

theorem receive (ho : Orderly c es h l cache) (w : Nat) : Orderly c es h (l.receive w) cache := by
  unfold Live.receive
  split
  · next channel inbox job seq reply outbox hk =>
    have hout : ∀ m ∈ outbox, m ∈ (seq, reply) :: outbox := fun m => List.mem_cons_of_mem _
    have hpop : ∀ channel, Orderly c es h
        { l with links := l.links.set w ⟨channel, inbox, job, outbox⟩ } cache := by
      intro channel
      refine ho.withTraffic ho.caches (by rw [List.length_set, ho.links])
        (ho.accounted.heard hk channel hout) fun t s hs => ?_
      have hstill : Still (l.traffic cache) _ t := still_heard hk channel hout
      exact hstill.stands hs
    dsimp only
    split
    · split
      · next o i hwaiting =>
        obtain ⟨lc, hcall, hstage, -⟩ := Live.call?_of_waiting? ho.numbers hwaiting
        refine (hpop _).answerCall _ hcall hstage reply fun t ht hran => ?_
        have hs := ho.standing o i lc hcall t ht
        rw [hstage] at hs
        exact hs.2 ⟨w, _, hk, _, List.mem_cons_self .., hran⟩
      · exact hpop _
    · exact hpop _
  · exact ho

/-- A call whose worker has delivered finds its participant's part of its own query. -/
theorem collect_eq (hc : c.Hosts es) (ho : Orderly c es h l cache)
    {ahead : Option Share} (hcall : l.call? o i = some ⟨⟨p, .ask ahead request⟩, .pulling⟩) :
    ∃ t sql b m d, request = .runQuery t t.messageId sql ∧ h.Owns t o i ∧
      h.queries.lookup o = some sql ∧ part es sql i = .ok b ∧
      l.cluster.collect request = ({ l.cluster with net := m }, .ok (.rows b)) ∧
      c.Caches m d ∧ d = { cache with stored := cache.stored.erase t.messageId } := by
  obtain ⟨r, sql, -, -, ha, hfits⟩ := ho.call_spec hcall
  cases hfits with
  | ask howns =>
    rename_i t w
    obtain ⟨-, q, hq⟩ := ho.standing o _ _ hcall t rfl
    have hpull : cache.pull t.messageId =
        .ok (q, { cache with stored := cache.stored.erase t.messageId }) := by
      have hfound : cache.stored.find? t.messageId = some q := hq
      rw [PartitionCache.pull, hfound]
    obtain ⟨m, hm, hcaches⟩ := hc.pull_eq_ok ho.caches hpull
    refine ⟨t, sql, q.batch, m, _, rfl, howns, ha.query,
      ho.accounted.held t o _ sql q howns ha.query hq, ?_, hcaches, rfl⟩
    simp only [Cluster.collect, ho.own_eq, hm]

theorem pull (hc : c.Hosts es) (ho : Orderly c es h l cache) (o i : Nat) :
    ∃ d, Orderly c es (h.note l (.pull o i)) (l.pull o i) d := by
  unfold Live.pull
  split
  · next p share request hcall =>
    obtain ⟨t, sql, b, m, d, rfl, howns, hquery, hpart, hcollect, hcaches, rfl⟩ :=
      ho.collect_eq hc hcall
    have hnote : h.note l (.pull o i) = { h with parts := h.parts ++ [(o, i)] } := by
      simp only [History.note, hcall, hcollect]
    rw [hnote]
    simp only [hcollect]
    refine ⟨_, ho.ending_rows hcall (by simp) hquery hpart hcaches
      (ho.accounted.withCache _ fun _ _ => FiniteMap.find?_of_erase) fun u hu s hs => ?_⟩
    have hstill : Still (l.traffic cache)
        ⟨l.links, l.strays, { cache with stored := cache.stored.erase t.messageId }⟩ u := by
      refine still_withCache (f := l.traffic cache) ?_ fun hw => hw
      simp [messageId_ne hu, Live.traffic]
    exact hstill.stands hs
  · next hno =>
    have hnote : h.note l (.pull o i) = h := by
      simp only [History.note]
    rw [hnote]
    exact ⟨cache, ho⟩

theorem expire (ho : Orderly c es h l cache) (o i : Nat) :
    Orderly c es h (l.expire o i) cache := by
  unfold Live.expire
  split
  · next limit lc hlimit hcall =>
    dsimp only
    split
    · exact ho
    · next id sql hstage htask =>
      refine ho.ending_error hcall (by rw [hstage]; simp) _ ho.links
        (ho.accounted.withCache _ fun _ _ hp => hp) fun u hu s hs => ?_
      obtain ⟨r, sql', -, -, -, hfits⟩ := ho.call_spec hcall
      obtain ⟨⟨p, task⟩, stage⟩ := lc
      obtain rfl : task = _ := htask
      cases hfits
      rename_i t w _
      have hne : u.messageId ≠ t.messageId := messageId_ne hu
      refine Still.stands (f := l.traffic cache)
        (still_withCache rfl fun hw => ⟨fun hm => ?_, hw.2⟩) hs
      rcases List.mem_append.1 hm with hm | hm
      · exact hw.1 hm
      · exact hne (List.mem_singleton.1 hm)
    · next hended _ =>
      exact ho.ending_error hcall (fun he => hended he) _ ho.links ho.accounted fun t _ s hs => hs
  · exact ho

end Orderly

end ShardQuery
