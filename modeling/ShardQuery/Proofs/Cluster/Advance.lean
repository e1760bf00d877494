import ShardQuery.Proofs.Cluster.Participation

namespace ShardQuery

/-- How far a call is from its end. -/
def Stage.rank : Stage → Nat
  | fresh => 4
  | numbered _ => 3
  | asked _ => 2
  | pulling => 1
  | ended => 0

theorem Stage.rank_eq_zero {s : Stage} : s.rank = 0 ↔ s = .ended := by
  cases s <;> simp [rank]

namespace Live

/-- The operations under way after an event, with the parts that it completes. -/
inductive Advances (l : Live) : List (Nat × Running) → List (Nat × ParticipantId × Answer) → Prop
  | rest : l.Advances l.running []
  | turns (hcall : l.call? o i = some lc) (htask : lc.call.task = .ask ahead request)
      (hs : s.rank < lc.stage.rank) (hpos : s ≠ .ended) :
      l.Advances (l.modifyOp o (·.withStage i s)).running []
  | fails (hcall : l.call? o i = some lc) (hs : lc.stage ≠ .ended) (k : FailureKind) :
      l.Advances (l.modifyOp o (·.ending i (.error k))).running []
  | comes (hcall : l.call? o i = some lc) (hs : lc.stage ≠ .ended)
      (ha : lc.call.task.bringsRows = a.batch?.isSome) :
      l.Advances (l.modifyOp o (·.ending i (.ok a))).running (l.part o i a)
  | leaves (p : ParticipantId) :
      l.Advances (l.running.map fun (o, r) => (o, disconnect p r)) []

/-- A cluster at work before and after an event that neither begins nor answers an operation. -/
structure Goes (l l' : Live) (news : List (Nat × ParticipantId × Answer)) : Prop where
  members : l'.cluster.members = l.cluster.members
  phase : l'.cluster.phase = l.cluster.phase
  size : l'.cluster.workers.length = l.cluster.workers.length
  dead : ∀ w, l.isAlive w = false → l'.isAlive w = false
  seats : l'.links.map (·.channel.worker) = l.links.map (·.channel.worker)
  drafts : l'.drafts = l.drafts
  begun : l'.begun = l.begun
  answers : l'.answers = l.answers
  advances : l.Advances l'.running news

variable {l : Live} {lc : LiveCall}

theorem map_worker_modify (links : List Link) (w : Nat) {f : Link → Link}
    (hf : ∀ k, (f k).channel.worker = k.channel.worker) :
    (links.modify w f).map (·.channel.worker) = links.map (·.channel.worker) := by
  apply List.ext_getElem?
  intro j
  rw [List.getElem?_map, List.getElem?_map, List.getElem?_modify, Option.map_eq_map, Option.map_map]
  congr 1
  funext k
  show (if w = j then f k else k).channel.worker = k.channel.worker
  split
  · exact hf k
  · rfl

theorem map_worker_set {links : List Link} (hj : links[w]? = some j) {k : Link}
    (hf : k.channel.worker = j.channel.worker) :
    (links.set w k).map (·.channel.worker) = links.map (·.channel.worker) := by
  rw [List.map_set, hf]
  apply set_of_getElem?
  rw [List.getElem?_map, hj]
  rfl

/-- Where nothing happens on a link, it is enough to know what becomes of the operations. -/
theorem Advances.goes {rs : List (Nat × Running)} (h : l.Advances rs news) (net : Interconnect)
    (now : Nat) (strays : List MessageId) :
    l.Goes { l with cluster := { l.cluster with net }, now, running := rs, strays } news :=
  ⟨rfl, rfl, rfl, fun _ h => h, rfl, rfl, rfl, rfl, h⟩

theorem Goes.rest (l : Live) : l.Goes l [] := Advances.rest.goes l.cluster.net l.now l.strays

theorem Goes.fails (hcall : l.call? o i = some lc) (hs : lc.stage ≠ .ended) (e : ClusterError) :
    l.Goes (l.endCall o i (.error e)) [] :=
  (Advances.fails hcall hs _).goes l.cluster.net l.now l.strays

theorem Goes.comes (hcall : l.call? o i = some lc) (hs : lc.stage ≠ .ended)
    (ha : lc.call.task.bringsRows = a.batch?.isSome) :
    l.Goes (l.endCall o i (.ok a)) (l.part o i a) :=
  (Advances.comes hcall hs ha).goes l.cluster.net l.now l.strays

theorem goes_tick (l : Live) (ms : Nat) : l.Goes (l.step (.tick ms)) (l.completed (.tick ms)) :=
  Advances.rest.goes l.cluster.net (l.now + ms) l.strays

theorem goes_own (l : Live) (o i : Nat) : l.Goes (l.step (.own o i)) (l.completed (.own o i)) := by
  rcases hcall : l.call? o i with _ | ⟨⟨p, task⟩, stage⟩
  · simp only [step, own, completed, hcall]
    exact .rest l
  · cases task with
    | ask ahead r =>
      simp only [step, own, completed, hcall]
      exact .rest l
    | own result =>
      cases stage with
      | fresh =>
        cases result with
        | ok b =>
          simp only [step, own, completed, hcall]
          exact .comes hcall Stage.noConfusion rfl
        | error x =>
          simp only [step, own, completed, hcall]
          exact .fails hcall Stage.noConfusion _
      | _ =>
        simp only [step, own, completed, hcall]
        exact .rest l

theorem sendShare_eq {c d : Cluster} {p : ParticipantId} {share : Option Share}
    (h : c.sendShare p share = .ok d) : ∃ net, d = { c with net } := by
  cases share with
  | none =>
    cases h
    exact ⟨c.net, rfl⟩
  | some s =>
    obtain ⟨loses, h⟩ : ∃ loses : Bool, (if loses then Except.ok c else
        c.own.send c.net p s.token s.id s.batch >>= fun net => .ok { c with net }) = .ok d := ⟨_, h⟩
    cases loses with
    | true =>
      cases h
      exact ⟨c.net, rfl⟩
    | false =>
      obtain ⟨net, -, h⟩ := Except.bind_eq_ok_iff.1 h
      cases h
      exact ⟨net, rfl⟩

theorem goes_prepare (l : Live) (o i : Nat) :
    l.Goes (l.step (.prepare o i)) (l.completed (.prepare o i)) := by
  show l.Goes (l.prepare o i) []
  unfold prepare
  split
  · next p ahead request hcall =>
    split
    · exact .fails hcall Stage.noConfusion _
    · next cluster hsend =>
      obtain ⟨net, rfl⟩ := sendShare_eq hsend
      split
      · exact .fails hcall Stage.noConfusion _
      · next k hk =>
        refine ⟨rfl, rfl, rfl, fun _ h => h, ?_, rfl, rfl, rfl, ?_⟩
        · show (l.links.modify (linkOf p) _).map _ = _
          rw [modify_of_getElem? hk]
          exact map_worker_set hk rfl
        · exact .turns hcall rfl (Nat.lt_succ_self 3) Stage.noConfusion
  · exact .rest l

theorem goes_send (l : Live) (o i : Nat) :
    l.Goes (l.step (.send o i)) (l.completed (.send o i)) := by
  show l.Goes (l.send o i) []
  unfold send
  split
  · next p ahead request seq hcall =>
    dsimp only
    split
    · refine ⟨rfl, rfl, rfl, fun _ h => h, ?_, rfl, rfl, rfl, ?_⟩
      · exact map_worker_modify l.links _ fun k => rfl
      · exact .fails hcall Stage.noConfusion _
    · split
      · split
        · refine ⟨rfl, rfl, rfl, fun _ h => h, ?_, rfl, rfl, rfl, ?_⟩
          · exact map_worker_modify l.links _ fun k => rfl
          · exact .turns hcall rfl (Nat.lt_succ_self 2) Stage.noConfusion
        · exact .rest l
      · exact .rest l
  · exact .rest l

theorem goes_serve (l : Live) (w : Nat) : l.Goes (l.step (.serve w)) (l.completed (.serve w)) := by
  show l.Goes (l.serve w) []
  unfold serve
  split
  · next channel seq r inbox outbox worker hk hw =>
    split
    · exact .rest l
    · next halive =>
      refine ⟨rfl, rfl, List.length_set, ?_, ?_, rfl, rfl, rfl, .rest⟩
      · -- the worker that takes the request is alive
        intro v hv
        have hne : w ≠ v := by
          rintro rfl
          simp only [isAlive, hw] at hv
          rw [hv] at halive
          exact halive rfl
        rw [isAlive, List.getElem?_set_ne hne]
        exact hv
      · apply map_worker_set hk
        split <;> rfl
  · exact .rest l

theorem goes_deliver (l : Live) (w : Nat) :
    l.Goes (l.step (.deliver w)) (l.completed (.deliver w)) := by
  show l.Goes (l.deliver w) []
  unfold deliver
  split
  · next channel inbox job outbox worker hk hw =>
    exact ⟨rfl, rfl, rfl, fun _ h => h, map_worker_set hk rfl, rfl, rfl, rfl, .rest⟩
  · exact .rest l

theorem goes_close (l : Live) (w : Nat) : l.Goes (l.step (.close w)) (l.completed (.close w)) := by
  show l.Goes (l.close w) []
  unfold close
  split
  · next channel inbox job hk =>
    split
    · exact .rest l
    · exact ⟨rfl, rfl, rfl, fun _ h => h, map_worker_set hk rfl, rfl, rfl, rfl, .leaves _⟩
  · exact .rest l

theorem goes_stray (l : Live) (k : Nat) : l.Goes (l.step (.stray k)) (l.completed (.stray k)) := by
  show l.Goes (l.stray k) []
  unfold stray
  split
  · exact .rest l
  · dsimp only
    split <;> exact Advances.rest.goes _ l.now _

theorem collect_eq (c : Cluster) (r : Request) :
    ∃ net result, c.collect r = ({ c with net }, result) ∧
      ∀ a, result = .ok a → r.pulls = a.batch?.isSome := by
  cases r with
  | runQuery token id sql =>
    cases hp : c.own.pull c.net id with
    | ok next =>
      refine ⟨next.2, .ok (.rows next.1), by simp only [Cluster.collect, hp], ?_⟩
      rintro _ ⟨⟩
      rfl
    | error e =>
      refine ⟨c.net, .error (.engine e), by simp only [Cluster.collect, hp], ?_⟩
      rintro _ ⟨⟩
  | _ =>
    refine ⟨c.net, .ok .done, rfl, ?_⟩
    rintro _ ⟨⟩
    rfl

theorem goes_pull (l : Live) (o i : Nat) :
    l.Goes (l.step (.pull o i)) (l.completed (.pull o i)) := by
  rcases hcall : l.call? o i with _ | ⟨⟨p, task⟩, stage⟩
  · simp only [step, pull, completed, hcall]
    exact .rest l
  · cases task with
    | own result =>
      simp only [step, pull, completed, hcall]
      exact .rest l
    | ask ahead r =>
      cases stage with
      | pulling =>
        obtain ⟨net, result, hcollect, hrows⟩ := collect_eq l.cluster r
        simp only [step, pull, completed, hcall, hcollect]
        cases result with
        | ok a =>
          exact (Advances.comes hcall Stage.noConfusion (hrows a rfl)).goes net l.now l.strays
        | error e =>
          exact (Advances.fails hcall Stage.noConfusion _).goes net l.now l.strays
      | _ =>
        simp only [step, pull, completed, hcall]
        exact .rest l

theorem check_eq_ok_iff {r : Request} {reply : Reply} :
    (Channel.meaning p reply >>= r.check p) = .ok () ↔ reply = r.success := by
  constructor
  · intro h
    obtain ⟨reply', hm, hcheck⟩ := Except.bind_eq_ok_iff.1 h
    obtain rfl : reply = reply' := by
      cases reply with
      | failed reason => cases hm
      | _ => exact Except.ok.inj hm
    by_contra hne
    unfold Request.check at hcheck
    rw [if_neg hne] at hcheck
    split at hcheck <;> cases hcheck
  · rintro rfl
    have hcheck : r.check p r.success = .ok () := if_pos rfl
    cases r <;> exact hcheck

/-- What comes of a call whose reply has come. -/
theorem goes_answerCall (hcall : l.call? o i = some lc) (hs : lc.stage = .asked seq)
    (p : ParticipantId) (reply : Reply) :
    l.Goes (l.answerCall p o i reply) (match l.call? o i with
      | some ⟨⟨_, .ask _ r⟩, _⟩ =>
        if reply = r.success ∧ r.pulls = false then l.part o i .done else []
      | _ => []) := by
  obtain ⟨⟨q, task⟩, stage⟩ := lc
  obtain rfl : stage = .asked seq := hs
  cases task with
  | own result =>
    simp only [answerCall, hcall]
    exact .rest l
  | ask ahead r =>
    simp only [answerCall, hcall]
    by_cases hreply : reply = r.success
    · rw [check_eq_ok_iff.2 hreply]
      cases r with
      | runQuery token id sql =>
        rw [if_neg fun h => Bool.noConfusion h.2]
        have hturns := Advances.turns (s := .pulling) hcall rfl (Nat.lt_succ_self 1)
          Stage.noConfusion
        exact hturns.goes l.cluster.net l.now l.strays
      | _ =>
        rw [if_pos ⟨hreply, rfl⟩]
        exact .comes hcall Stage.noConfusion rfl
    · rw [if_neg fun h => hreply h.1]
      split
      · exact .fails hcall Stage.noConfusion _
      · next hok => exact absurd (check_eq_ok_iff.1 hok) hreply

/-- Nothing on the way to or from workers decides how the operations stand. -/
theorem Advances.of_links {links : List Link} {rs : List (Nat × Running)}
    (h : { l with links }.Advances rs news) : l.Advances rs news := by
  cases h with
  | rest => exact .rest
  | turns hcall htask hs hpos => exact .turns (l := l) hcall htask hs hpos
  | fails hcall hs k => exact .fails (l := l) hcall hs k
  | comes hcall hs ha => exact .comes (l := l) hcall hs ha
  | leaves p => exact .leaves (l := l) p

theorem Goes.of_links {links : List Link} {l' : Live}
    (hl : links.map (·.channel.worker) = l.links.map (·.channel.worker))
    (h : { l with links }.Goes l' news) : l.Goes l' news :=
  ⟨h.members, h.phase, h.size, h.dead, h.seats.trans hl, h.drafts, h.begun, h.answers,
    h.advances.of_links⟩

theorem goes_receive (hl : (l.running.map Prod.fst).Nodup) (w : Nat) :
    l.Goes (l.step (.receive w)) (l.completed (.receive w)) := by
  rcases hk : l.links[w]? with _ | ⟨channel, inbox, job, _ | ⟨⟨seq, reply⟩, outbox⟩⟩
  · simp only [step, receive, completed, hk]
    exact .rest l
  · simp only [step, receive, completed, hk]
    exact .rest l
  · simp only [step, receive, completed, hk]
    split
    · apply Goes.of_links (map_worker_set hk (k := ⟨channel.settle seq, inbox, job, outbox⟩) rfl)
      generalize l.links.set w _ = links
      have hwaiting : { l with links }.waiting? channel.worker seq =
          l.waiting? channel.worker seq := rfl
      rw [hwaiting]
      cases hcall : l.waiting? channel.worker seq with
      | none => exact .rest _
      | some place =>
        obtain ⟨lc, hcall, hs, -⟩ := call?_of_waiting? hl hcall
        exact goes_answerCall (l := { l with links }) hcall hs channel.worker reply
    · exact ⟨rfl, rfl, rfl, fun _ h => h, map_worker_set hk rfl, rfl, rfl, rfl, .rest⟩

/-- All that an event can do which neither begins nor answers an operation. -/
theorem goes (hl : (l.running.map Prod.fst).Nodup) (he : e.isWork = true)
    (hc : ∀ o, e ≠ .conclude o) : l.Goes (l.step e) (l.completed e) := by
  cases e with
  | prepare o i => exact l.goes_prepare o i
  | own o i => exact l.goes_own o i
  | send o i => exact l.goes_send o i
  | serve w => exact l.goes_serve w
  | deliver w => exact l.goes_deliver w
  | receive w => exact goes_receive hl w
  | pull o i => exact l.goes_pull o i
  | close w => exact l.goes_close w
  | stray k => exact l.goes_stray k
  | tick ms => exact l.goes_tick ms
  | conclude o => exact absurd rfl (hc o)
  | _ => cases he

theorem op?_replaced (hr : l.op? o = some r) (r' : Running) :
    (l.modifyOp o fun _ => r').op? o = some r' := by
  simp [hr]

end Live

/-- An operation under way, and later: no call is further from its end. -/
structure Running.Onward (r r' : Running) : Prop where
  aim : r'.aim = r.aim
  size : r'.calls.length = r.calls.length
  calls : ∀ (i : Nat) lc, r.calls[i]? = some lc →
    ∃ lc', r'.calls[i]? = some lc' ∧ lc'.call = lc.call ∧ lc'.stage.rank ≤ lc.stage.rank

namespace Running.Onward

variable {r r' r'' : Running} {lc : LiveCall}

theorem refl (r : Running) : r.Onward r := ⟨rfl, rfl, fun _ lc hi => ⟨lc, hi, rfl, Nat.le_refl _⟩⟩

theorem trans (h : r.Onward r') (h' : r'.Onward r'') : r.Onward r'' where
  aim := h'.aim.trans h.aim
  size := h'.size.trans h.size
  calls i lc hi := by
    obtain ⟨lc', hi', hcall, hle⟩ := h.calls i lc hi
    obtain ⟨lc'', hi'', hcall', hle'⟩ := h'.calls i lc' hi'
    exact ⟨lc'', hi'', hcall'.trans hcall, Nat.le_trans hle' hle⟩

theorem atStage (hi : r.calls[i]? = some lc) (hs : s.rank ≤ lc.stage.rank)
    (hcalls : r'.calls = r.calls.modify i fun lc => { lc with stage := s })
    (haim : r'.aim = r.aim) : r.Onward r' where
  aim := haim
  size := by rw [hcalls, List.length_modify]
  calls j lc' hj := by
    refine ⟨_, by rw [hcalls]; exact Asking.getElem?_atStage.2 ⟨lc', hj, rfl⟩, ?_⟩
    split
    · next hij =>
      subst hij
      cases hi.symm.trans hj
      exact ⟨rfl, hs⟩
    · exact ⟨rfl, Nat.le_refl _⟩

theorem ending {i : Nat} (hi : r.calls[i]? = some lc) (x : Except FailureKind Answer) :
    r.Onward (r.ending i x) := by
  apply atStage hi (Nat.zero_le _) (Asking.calls_ending r i x)
  rw [Asking.ending_eq hi]
  rfl

theorem disconnect (r : Running) (p : ParticipantId) : r.Onward (Live.disconnect p r) := by
  apply Live.disconnect_induction (refl r)
  intro r' i lc seq h hi _ _
  exact h.trans (ending hi _)

end Running.Onward

namespace Live.Advances

open History

variable {l : Live} {rs : List (Nat × Running)} {news : List (Nat × ParticipantId × Answer)}
  {ids : List ParticipantId} {op : Operation} {parts : List (ParticipantId × Answer)} {r : Running}

theorem numbers (h : l.Advances rs news) : rs.map Prod.fst = l.running.map Prod.fst := by
  cases h with
  | rest => rfl
  | leaves p =>
    rw [List.map_map]
    rfl
  | _ => exact numbers_modifyOp ..

theorem only_part (n : Nat) (hr : l.op? o = some r) (i : Nat) (a : Answer) :
    History.only n (l.part o i a) = if n = o then r.part i a else [] := by
  rw [Live.part, hr]
  exact only_map ..

theorem lookup_leaves (rs : List (Nat × Running)) (p : ParticipantId) (n : Nat) :
    (rs.map fun (o, r) => (o, disconnect p r)).lookup n = (rs.lookup n).map (disconnect p) := by
  induction rs with
  | nil => rfl
  | cons q rs ih =>
    rw [List.map_cons, List.lookup_cons, List.lookup_cons, ih]
    split <;> rfl

theorem going (h : l.Advances rs news) (hr : l.op? n = some r) (hg : Going ids op parts r) :
    ∃ r', rs.lookup n = some r' ∧ r.Onward r' ∧ Going ids op (parts ++ only n news) r' := by
  have hop : ∀ o f, (l.modifyOp o f).running.lookup n = if n = o then some (f r) else some r := by
    intro o f
    have hop := op?_modifyOp l o f n
    rw [hr] at hop
    exact hop
  have hsame : Going ids op (parts ++ only n []) r := by
    rw [only, List.filter_nil, List.map_nil, List.append_nil]
    exact hg
  cases h with
  | rest => exact ⟨r, hr, .refl r, hsame⟩
  | leaves p =>
    refine ⟨disconnect p r, ?_, .disconnect r p, hsame.disconnect p⟩
    rw [lookup_leaves]
    exact congrArg (Option.map (disconnect p)) hr
  | @turns o i lc _ _ s hcall htask hs hpos =>
    obtain ⟨r', hr', hi⟩ := call?_eq_some_iff.1 hcall
    rw [hop]
    split
    · next hn =>
      subst hn
      cases hr.symm.trans hr'
      refine ⟨_, rfl, .atStage hi (Nat.le_of_lt hs) rfl rfl, ?_⟩
      refine hsame.turn hi htask ?_ hpos
      intro hended
      rw [hended] at hs
      cases hs
    · exact ⟨r, rfl, .refl r, hsame⟩
  | @fails o i lc hcall hs k =>
    obtain ⟨r', hr', hi⟩ := call?_eq_some_iff.1 hcall
    rw [hop]
    split
    · next hn =>
      subst hn
      cases hr.symm.trans hr'
      exact ⟨_, rfl, .ending hi _, hsame.fails hi hs k⟩
    · exact ⟨r, rfl, .refl r, hsame⟩
  | @comes o i lc a hcall hs ha =>
    obtain ⟨r', hr', hi⟩ := call?_eq_some_iff.1 hcall
    rw [hop, only_part n hr']
    split
    · next hn =>
      subst hn
      cases hr.symm.trans hr'
      exact ⟨_, rfl, .ending hi _, hg.comes hi hs ha⟩
    · rw [List.append_nil]
      exact ⟨r, rfl, .refl r, hg⟩

theorem absent (h : l.Advances rs news) (hn : l.op? n = none) :
    rs.lookup n = none ∧ only n news = [] := by
  have hop : ∀ o f, (l.modifyOp o f).running.lookup n = none := by
    intro o f
    have hop := op?_modifyOp l o f n
    rw [hn, Option.map_none, ite_self] at hop
    exact hop
  cases h with
  | rest => exact ⟨hn, rfl⟩
  | leaves p =>
    refine ⟨?_, rfl⟩
    rw [lookup_leaves]
    exact congrArg (Option.map (disconnect p)) hn
  | turns hcall htask hs hpos => exact ⟨hop .., rfl⟩
  | fails hcall hs k => exact ⟨hop .., rfl⟩
  | @comes o i lc a hcall hs ha =>
    obtain ⟨r', hr', hi⟩ := call?_eq_some_iff.1 hcall
    refine ⟨hop .., ?_⟩
    rw [only_part n hr', if_neg]
    rintro rfl
    cases hn.symm.trans hr'

end Live.Advances

end ShardQuery
