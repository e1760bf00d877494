import ShardQuery.Proofs.Cluster.Stopping
import ShardQuery.Proofs.Cluster.Unsent

namespace ShardQuery

namespace Live

/--
What becomes of the tokens of a cluster between two states, where some ids were sent out and the
operations that have begun are charged.
-/
structure Spends (l l' : Live) (ids : List MessageId) (charge : Nat) : Prop where
  size : l'.cluster.workers.length = l.cluster.workers.length
  members : l'.cluster.members = l.cluster.members
  numbered : l'.Numbered
  later : l.issued ≤ l'.issued
  tokens : l'.issued + l'.owed = l.issued + l.owed + charge
  /-- An id was at hand before, or its token was taken in between. -/
  spent : ∀ id, ids.count id + (l'.unsentIds.count id + l'.draftedIds.count id) ≤
    l.unsentIds.count id + l.draftedIds.count id + (freshIds l.issued l'.issued).count id

/-- No request comes into a queue. -/
def Unqueued (l l' : Live) : Prop :=
  ∀ (w : Nat) k', l'.links[w]? = some k' →
    ∃ k, l.links[w]? = some k ∧ k'.inbox.length ≤ k.inbox.length

/-- No token is taken, and no request comes into a queue. -/
structure Rests (l l' : Live) : Prop where
  tokens : l'.cluster.tokens = l.cluster.tokens
  unqueued : l.Unqueued l'

variable {l l' l'' : Live} {ids ids' : List MessageId}

namespace Spends

theorem refl (h : l.Numbered) : l.Spends l [] 0 where
  size := rfl
  members := rfl
  numbered := h
  later := Nat.le_refl _
  tokens := rfl
  spent id := by
    rw [List.count_nil]
    omega

theorem trans (h : l.Spends l' ids m) (h' : l'.Spends l'' ids' n) :
    l.Spends l'' (ids ++ ids') (m + n) where
  size := h'.size.trans h.size
  members := h'.members.trans h.members
  numbered := h'.numbered
  later := Nat.le_trans h.later h'.later
  tokens := by
    have := h.tokens
    have := h'.tokens
    omega
  spent id := by
    have hs := h.spent id
    have hs' := h'.spent id
    rw [← freshIds_append h.later h'.later, List.count_append, List.count_append]
    omega

/-- Where no token is taken it is enough to know what becomes of the calls. -/
theorem spare (h : l.Numbered) (ht : l'.cluster.tokens = l.cluster.tokens)
    (hsize : l'.cluster.workers.length = l.cluster.workers.length)
    (hmembers : l'.cluster.members = l.cluster.members) (hdrafts : l'.drafts = l.drafts)
    (hbegun : l'.begun = l.begun)
    (hnumbers : (l'.running.map Prod.fst).Sublist (l.running.map Prod.fst))
    (hids : ∀ id, ids.count id + l'.unsentIds.count id ≤ l.unsentIds.count id) :
    l.Spends l' ids 0 where
  size := hsize
  members := hmembers
  numbered := by
    refine h.of_subperm ?_ (Nat.le_of_eq hbegun.symm)
    rw [numbers, numbers, hdrafts]
    exact (hnumbers.append_left _).subperm
  later := by
    rw [issued, issued, ht]
  tokens := by
    rw [issued, issued, ht, owed, owed, hdrafts, hsize]
    rfl
  spent id := by
    have := hids id
    have hdrafted : l'.draftedIds = l.draftedIds := by
      rw [draftedIds, draftedIds, hdrafts]
    rw [hdrafted]
    omega

/-- Calls that go on by themselves take no tokens. -/
theorem goes (h : l.Numbered) (ht : l'.cluster.tokens = l.cluster.tokens)
    (hg : l.Goes l' news) : l.Spends l' [] 0 := by
  have hon : l.Onward l'.running := hg.advances.onward h.running
  refine .spare h ht hg.size hg.members hg.drafts hg.begun ?_ fun id => ?_
  · rw [hg.advances.numbers]
  · rw [List.count_nil, Nat.zero_add]
    exact hon.unsentIds.count_le id

end Spends

/-! ### Queues -/

namespace Unqueued

theorem of_links (h : l'.links = l.links) : l.Unqueued l' := by
  intro w k' hk'
  rw [h] at hk'
  exact ⟨k', hk', Nat.le_refl _⟩

theorem set {k' : Link} (hk : l.links[w]? = some k) (hl' : l'.links = l.links.set w k')
    (hlen : k'.inbox.length ≤ k.inbox.length) : l.Unqueued l' := by
  intro v j' hj'
  rw [hl', List.getElem?_set] at hj'
  split at hj'
  · next hv =>
    subst hv
    split at hj'
    · cases hj'
      exact ⟨k, hk, hlen⟩
    · cases hj'
  · exact ⟨j', hj', Nat.le_refl _⟩

theorem modify {f : Link → Link} (hl' : l'.links = l.links.modify w f)
    (hf : ∀ k, (f k).inbox = k.inbox) : l.Unqueued l' := by
  intro v k' hk'
  rw [hl', List.getElem?_modify] at hk'
  obtain ⟨k, hk, rfl⟩ := Option.map_eq_some_iff.1 hk'
  refine ⟨k, hk, ?_⟩
  split
  · rw [hf]
  · exact Nat.le_refl _

theorem queued (h : l.Unqueued l') : l.queued l' = [] := by
  refine List.flatten_eq_nil_iff.2 fun rs hrs => ?_
  obtain ⟨w, hw⟩ := List.getElem?_of_mem hrs
  obtain ⟨k, k', hk, hk', rfl⟩ := List.getElem?_zipWith_eq_some.1 hw
  obtain ⟨j, hj, hle⟩ := h w k' hk'
  cases hk.symm.trans hj
  rw [List.drop_eq_nil_of_le hle]
  rfl

end Unqueued

theorem queued_push {k : Link} (hk : l.links[w]? = some k) (seq : Nat) (request : Request)
    (hl' : l'.links = l.links.set w { k with inbox := k.inbox ++ [(seq, request)] }) :
    l.queued l' = [request] := by
  have hsame : ∀ ks : List Link, (List.zipWith (fun k k' : Link =>
      (k'.inbox.drop k.inbox.length).map Prod.snd) ks ks).flatten = [] := by
    intro ks
    rw [List.zipWith_self]
    refine List.flatten_eq_nil_iff.2 fun rs hrs => ?_
    obtain ⟨j, -, rfl⟩ := List.mem_map.1 hrs
    rw [List.drop_length]
    rfl
  obtain ⟨pre, post, hpre, hset⟩ :=
    exists_modify hk fun k => { k with inbox := k.inbox ++ [(seq, request)] }
  rw [queued, hl', ← modify_of_getElem? hk fun k => { k with inbox := k.inbox ++ [(seq, request)] },
    hset, hpre, List.zipWith_append rfl, List.zipWith_cons_cons, List.flatten_append,
    List.flatten_cons, hsame, hsame, List.drop_left]
  rfl

theorem Rests.of_eq (ht : l'.cluster.tokens = l.cluster.tokens) (hl : l'.links = l.links) :
    l.Rests l' := ⟨ht, .of_links hl⟩

theorem rests_self (l : Live) : l.Rests l := .of_eq rfl rfl

theorem rests_own (l : Live) (o i : Nat) : l.Rests (l.own o i) := by
  unfold own
  split
  · exact .of_eq rfl rfl
  · exact l.rests_self

theorem rests_prepare (l : Live) (o i : Nat) : l.Rests (l.prepare o i) := by
  unfold prepare
  split
  · split
    · exact .of_eq rfl rfl
    · next cluster hsend =>
      obtain ⟨net, rfl⟩ := sendShare_eq hsend
      split
      · exact .of_eq rfl rfl
      · exact ⟨rfl, .modify rfl fun _ => rfl⟩
  · exact l.rests_self

theorem rests_serve (l : Live) (w : Nat) : l.Rests (l.serve w) := by
  unfold serve
  split
  · next hk hw =>
    split
    · exact l.rests_self
    · refine ⟨rfl, .set hk rfl ?_⟩
      split
      · exact Nat.le_succ _
      · exact Nat.le_succ _
      · exact Nat.zero_le _
  · exact l.rests_self

theorem rests_deliver (l : Live) (w : Nat) : l.Rests (l.deliver w) := by
  unfold deliver
  split
  · next hk hw => exact ⟨rfl, .set hk rfl (Nat.le_refl _)⟩
  · exact l.rests_self

theorem tokens_answerCall (l : Live) (p : ParticipantId) (o i : Nat) (reply : Reply) :
    (l.answerCall p o i reply).cluster = l.cluster := by
  unfold answerCall
  split
  · split
    · rfl
    · split <;> rfl
  · rfl

theorem rests_receive (l : Live) (w : Nat) : l.Rests (l.receive w) := by
  rcases hk : l.links[w]? with _ | ⟨channel, inbox, job, _ | ⟨⟨seq, reply⟩, outbox⟩⟩
  · simp only [receive, hk]
    exact l.rests_self
  · simp only [receive, hk]
    exact l.rests_self
  · obtain ⟨channel', hlinks⟩ := links_receive hk
    refine ⟨?_, .set hk hlinks (Nat.le_refl _)⟩
    simp only [receive, hk]
    split
    · split
      · rw [tokens_answerCall]
      · rfl
    · rfl

theorem rests_pull (l : Live) (o i : Nat) : l.Rests (l.pull o i) := by
  unfold pull
  split
  · next p ahead request hcall =>
    obtain ⟨net, result, hcollect, -⟩ := collect_eq l.cluster request
    rw [hcollect]
    exact .of_eq rfl rfl
  · exact l.rests_self

theorem rests_close (l : Live) (w : Nat) : l.Rests (l.close w) := by
  unfold close
  split
  · next hk =>
    split
    · exact l.rests_self
    · exact ⟨rfl, .set hk rfl (Nat.le_refl _)⟩
  · exact l.rests_self

theorem rests_stray (l : Live) (k : Nat) : l.Rests (l.stray k) := by
  unfold stray
  split
  · exact l.rests_self
  · dsimp only
    split <;> exact .of_eq rfl rfl

theorem rests_expire (l : Live) (o i : Nat) : l.Rests (l.expire o i) := by
  unfold expire
  split
  · dsimp only
    split
    · exact l.rests_self
    · exact .of_eq rfl rfl
    · exact .of_eq rfl rfl
  · exact l.rests_self

theorem goes_expire (l : Live) (o i : Nat) : l.Goes (l.expire o i) [] := by
  unfold expire
  split
  · next limit lc hlimit hcall =>
    dsimp only
    split
    · exact .rest l
    · next hs _ =>
      refine (Advances.fails hcall ?_ _).goes l.cluster.net l.now _
      rw [hs]
      exact Stage.noConfusion
    · next hs _ => exact (Advances.fails hcall hs _).goes l.cluster.net l.now l.strays
  · exact .rest l

theorem rests_stop (l : Live) : l.Rests l.stop := by
  rw [stop]
  split
  · exact l.rests_self
  · next hphase =>
    refine ⟨?_, fun w k' hk' => ?_⟩
    · show l.cluster.stop.tokens = l.cluster.tokens
      rw [Cluster.stop, if_neg hphase]
    · obtain ⟨k, hk, rfl⟩ := Option.map_eq_some_iff.1 ((List.getElem?_map ..).symm.trans hk')
      exact ⟨k, hk, Nat.zero_le _⟩

end Live

namespace Cluster

theorem unissued_map {f : α → Call} (hf : ∀ a, (f a).issuedId? = none) (as : List α) :
    (as.map f).filterMap Call.issuedId? = [] := by
  rw [List.filterMap_map]
  exact List.filterMap_eq_nil_iff.2 fun a _ => hf a

/-- What is left of a cluster as an operation is concluded, be it the start of the workers. -/
theorem conclude_eq (c : Cluster) (outcome : Outcome Answer) (goal : Goal) :
    (∃ phase own net, (c.conclude outcome goal).1 = { c with phase, own, net }) ∧
      (c.conclude outcome goal).2.undo.filterMap Call.issuedId? = [] := by
  have hkeep : ∃ phase own net, c = { c with phase, own, net } := ⟨c.phase, c.own, c.net, rfl⟩
  have hback : ∀ name created,
      (∃ phase own net, (c.rollBack name created).1 = { c with phase, own, net }) ∧
        (c.rollBack name created).2.filterMap Call.issuedId? = [] := by
    intro name created
    exact ⟨⟨c.phase, _, c.net, rfl⟩, unissued_map (fun _ => rfl) _⟩
  cases goal with
  | launched =>
    simp only [conclude]
    split <;> exact ⟨⟨_, c.own, c.net, rfl⟩, rfl⟩
  | created name =>
    simp only [conclude]
    split
    · exact ⟨hkeep, rfl⟩
    · exact hback name _
  | loaded name result =>
    simp only [conclude]
    split
    · exact ⟨hkeep, rfl⟩
    · exact hback name _
  | dropped name =>
    simp only [conclude]
    split
    · next own _ => exact ⟨⟨c.phase, own, c.net, rfl⟩, rfl⟩
    · exact ⟨hkeep, rfl⟩
  | queried issued =>
    obtain ⟨net, hnet⟩ := c.discardLate_eq_withNet issued outcome.failures
    exact ⟨⟨c.phase, c.own, net, hnet⟩, rfl⟩

end Cluster

namespace Live

variable {l : Live}

theorem spends_stop (h : l.Numbered) : l.Spends l.stop [] 0 := by
  have hsize : l.cluster.stop.workers.length = l.cluster.workers.length := by
    rw [Cluster.stop]
    split
    · rfl
    · exact List.length_map ..
  have hmembers : l.cluster.stop.members = l.cluster.members := by
    rw [Cluster.stop]
    split <;> rfl
  have hrest := l.rests_stop.tokens
  rw [stop] at hrest ⊢
  split
  · exact .refl h
  · next hphase =>
    rw [if_neg hphase] at hrest
    exact .spare h hrest hsize hmembers rfl rfl (.refl _) fun id => by
      rw [List.count_nil, Nat.zero_add]
      exact Nat.le_refl _

/-- An operation whose calls have ended is answered, or it goes on with calls that undo them. -/
theorem conclude_cases (l : Live) (o : Nat) : l.conclude o = l ∨
    ∃ r phase own net, l.op? o = some r ∧
      ((∃ a, l.conclude o = { l with cluster := { l.cluster with phase, own, net } }.answer o a) ∨
        ∃ undo a, undo.filterMap Call.issuedId? = [] ∧
          l.conclude o = { l with cluster := { l.cluster with phase, own, net } }.modifyOp o
            fun _ => .fresh undo l.now (.give a)) := by
  unfold conclude
  cases hr : l.op? o with
  | none => exact .inl rfl
  | some r =>
    dsimp only
    split
    · exact .inl rfl
    · cases r.aim with
      | give a =>
        exact .inr ⟨r, l.cluster.phase, l.cluster.own, l.cluster.net, rfl, .inl ⟨a, rfl⟩⟩
      | conclude goal =>
        obtain ⟨⟨phase, own, net, hcluster⟩, hundo⟩ :=
          l.cluster.conclude_eq (.ofEnded r.ended) goal
        dsimp only
        rw [hcluster]
        split
        · exact .inl rfl
        · refine .inr ⟨r, phase, own, net, rfl, ?_⟩
          split
          · exact .inl ⟨_, rfl⟩
          · exact .inr ⟨_, _, hundo, rfl⟩

theorem rests_conclude (l : Live) (o : Nat) : l.Rests (l.conclude o) := by
  rcases l.conclude_cases o with h | ⟨r, phase, own, net, -, ⟨a, h⟩ | ⟨undo, a, -, h⟩⟩
  · rw [h]
    exact l.rests_self
  · rw [h]
    exact .of_eq rfl rfl
  · rw [h]
    exact .of_eq rfl rfl

/-- What follows the end of all calls of an operation takes no tokens. -/
theorem spends_conclude (hn : l.Numbered) (o : Nat) : l.Spends (l.conclude o) [] 0 := by
  rcases l.conclude_cases o with h | ⟨r, phase, own, net, hr, ⟨a, h⟩ | ⟨undo, a, hundo, h⟩⟩
  · rw [h]
    exact .refl hn
  · rw [h]
    refine .spare hn rfl rfl rfl rfl rfl (List.filter_sublist.map _) fun id => ?_
    have hcount := count_unsentIds_filter hn hr
      (m := { l with cluster := { l.cluster with phase, own, net } }.answer o a) rfl id
    rw [List.count_nil]
    omega
  · rw [h]
    refine .spare hn rfl rfl rfl rfl rfl ?_ fun id => ?_
    · rw [numbers_modifyOp]
    · have hcount := count_unsentIds hn hr (f := fun _ => .fresh undo l.now (.give a))
        (m := { l with cluster := { l.cluster with phase, own, net } }.modifyOp o
          fun _ => .fresh undo l.now (.give a)) rfl id
      rw [unsentIds_fresh, hundo, List.count_nil] at hcount
      rw [List.count_nil]
      omega

/-- A request comes into a queue, or nothing does. -/
theorem send_cases (l : Live) (o i : Nat) : l.Rests (l.send o i) ∨
    ∃ r p ahead request seq k, l.op? o = some r ∧
      r.calls[i]? = some ⟨⟨p, .ask ahead request⟩, .numbered seq⟩ ∧
      l.links[linkOf p]? = some k ∧ l.send o i = { l with
        links := l.links.set (linkOf p) { k with inbox := k.inbox ++ [(seq, request)] } }.modifyOp o
          (·.withStage i (.asked seq)) := by
  unfold send
  split
  · next p ahead request seq hcall =>
    dsimp only
    split
    · exact .inl ⟨rfl, .modify rfl fun _ => rfl⟩
    · split
      · next k hk =>
        split
        · right
          obtain ⟨r, hr, hi⟩ := call?_eq_some_iff.1 hcall
          refine ⟨r, p, ahead, request, seq, k, hr, hi, hk, ?_⟩
          rw [modifyLink, modify_of_getElem? hk]
        · exact .inl l.rests_self
      · exact .inl l.rests_self
  · exact .inl l.rests_self

theorem spends_send (hn : l.Numbered) (o i : Nat) : l.Spends (l.send o i)
    ((l.queued (l.send o i)).filterMap Request.issuedId?) 0 := by
  rcases l.send_cases o i with h | ⟨r, p, ahead, request, seq, k, hr, hi, hk, h⟩
  · rw [h.unqueued.queued]
    exact .goes hn h.tokens (l.goes_send o i)
  · rw [queued_push hk seq request (by rw [h]; rfl), h]
    refine .spare hn rfl rfl rfl rfl rfl ?_ fun id => ?_
    · rw [numbers_modifyOp]
    · have hcount := count_unsentIds hn hr (f := (·.withStage i (.asked seq)))
        (m := { l with
          links := l.links.set (linkOf p) { k with inbox := k.inbox ++ [(seq, request)] } }.modifyOp
            o (·.withStage i (.asked seq))) rfl id
      have hsent : [request].filterMap Request.issuedId? = request.issuedId?.toList := by
        rw [List.filterMap_cons]
        cases request.issuedId? <;> rfl
      have hleft := count_unsentIds_sent hi id
      have hid : Call.issuedId? ⟨p, .ask ahead request⟩ = request.issuedId? := rfl
      rw [hid, ← hsent] at hleft
      omega

end Live

end ShardQuery
