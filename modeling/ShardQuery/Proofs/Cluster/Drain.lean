import ShardQuery.Proofs.Cluster.Halting

namespace ShardQuery

namespace Live

variable {l m : Live} {lc : LiveCall}

def backlog (l : Live) (p : ParticipantId) : Nat :=
  ((l.links[linkOf p]?).map (·.outbox.length)).getD 0

theorem backlog_modify (l : Live) (w : Nat) {f : Link → Link}
    (hf : ∀ k, (f k).outbox = k.outbox) (p : ParticipantId) :
    (l.modifyLink w f).backlog p = l.backlog p := by
  rw [backlog, backlog, modifyLink, List.getElem?_modify, Option.map_eq_map, Option.map_map]
  congr 2
  funext k
  show (if w = linkOf p then f k else k).outbox.length = k.outbox.length
  split
  · rw [hf]
  · rfl

def Deserted (l : Live) : Prop := ∀ w, l.isAlive w = false

def desert (l : Live) : Live :=
  { l with
    cluster := { l.cluster with workers := l.cluster.workers.map Worker.ended }
    links := l.links.map fun k => { k with inbox := [], job := none } }

theorem deserted_desert (l : Live) : l.desert.Deserted := by
  intro w
  rw [isAlive, desert, List.getElem?_map]
  cases l.cluster.workers[w]? <;> rfl

theorem foldl_kill (l : Live) (ws : List Nat) : ws.foldl kill l =
    { l with
      cluster := { l.cluster with
        workers := ws.foldl (fun workers w => workers.modify w Worker.ended) l.cluster.workers }
      links := ws.foldl (fun links w => links.modify w fun k => { k with inbox := [], job := none })
        l.links } := by
  induction ws generalizing l with
  | nil => rfl
  | cons w ws ih => exact ih (l.kill w)

/-- To end the workers one by one is to end them all. -/
theorem kill_each (l : Live) (hn : l.links.length = l.cluster.workers.length) :
    (List.range l.cluster.workers.length).foldl kill l = l.desert := by
  rw [foldl_kill, foldl_modify_range, ← hn, foldl_modify_range]
  rfl

/-- A call is nearer to its end than before, or there are fewer replies before its own. -/
def Nearer (l l' : Live) (o i : Nat) (lc : LiveCall) : Prop :=
  ∃ lc', l'.call? o i = some lc' ∧ lc'.call = lc.call ∧
    lc'.stage.rank + l'.backlog lc.call.participant <
      lc.stage.rank + l.backlog lc.call.participant

theorem nearer_modifyOp (hcall : m.call? o i = some lc)
    (hb : m.backlog lc.call.participant = l.backlog lc.call.participant) {f : Running → Running}
    {s : Stage} (hf : ∀ r, (f r).calls = r.calls.modify i fun lc => { lc with stage := s })
    (hs : s.rank < lc.stage.rank) : l.Nearer (m.modifyOp o f) o i lc := by
  refine ⟨_, call?_modifyOp hcall hf, rfl, ?_⟩
  have hsame : (m.modifyOp o f).backlog lc.call.participant = m.backlog lc.call.participant := rfl
  rw [hsame, hb]
  exact Nat.add_lt_add_right hs _

theorem nearer_ending (hcall : m.call? o i = some lc)
    (hb : m.backlog lc.call.participant = l.backlog lc.call.participant)
    (hs : lc.stage ≠ .ended) (x : Except FailureKind Answer) :
    l.Nearer (m.modifyOp o (·.ending i x)) o i lc := by
  apply nearer_modifyOp hcall hb (fun r => Asking.calls_ending r i x)
  exact Nat.pos_of_ne_zero fun h => hs (Stage.rank_eq_zero.1 h)

theorem nearer_own (hcall : l.call? o i = some lc) (htask : lc.call.task = .own result)
    (hs : lc.stage = .fresh) : l.Nearer (l.own o i) o i lc := by
  obtain ⟨⟨p, task⟩, stage⟩ := lc
  cases htask
  cases hs
  simp only [own, hcall]
  exact nearer_ending hcall rfl Stage.noConfusion _

theorem nearer_prepare (hcall : l.call? o i = some lc) (htask : lc.call.task = .ask ahead r)
    (hs : lc.stage = .fresh) : l.Nearer (l.prepare o i) o i lc := by
  obtain ⟨⟨p, task⟩, stage⟩ := lc
  cases htask
  cases hs
  simp only [prepare, hcall]
  split
  · exact nearer_ending hcall rfl Stage.noConfusion _
  · next cluster _ =>
    split
    · exact nearer_ending hcall rfl Stage.noConfusion _
    · next k _ =>
      refine nearer_modifyOp (m := { l with cluster }.modifyLink (linkOf p) _)
        (s := .numbered k.channel.issue.1) hcall ?_ ?_ ?_
      · exact backlog_modify { l with cluster } (linkOf p) (by intro k; rfl) p
      · intro r
        rfl
      · exact Nat.lt_succ_self 3

theorem nearer_send (hl : l.Deserted) (hcall : l.call? o i = some lc)
    (htask : lc.call.task = .ask ahead r) (hs : lc.stage = .numbered seq) :
    l.Nearer (l.send o i) o i lc := by
  obtain ⟨⟨p, task⟩, stage⟩ := lc
  cases htask
  cases hs
  simp only [send, hcall, hl (linkOf p), Bool.not_false, if_true]
  refine nearer_ending (m := l.modifyLink (linkOf p) _) hcall ?_ Stage.noConfusion _
  exact l.backlog_modify (linkOf p) (by intro k; rfl) p

theorem nearer_pull (hcall : l.call? o i = some lc) (htask : lc.call.task = .ask ahead r)
    (hs : lc.stage = .pulling) : l.Nearer (l.pull o i) o i lc := by
  obtain ⟨⟨p, task⟩, stage⟩ := lc
  cases htask
  cases hs
  obtain ⟨net, result, hcollect, -⟩ := collect_eq l.cluster r
  simp only [pull, hcall, hcollect]
  exact nearer_ending (m := { l with cluster := { l.cluster with net } }) hcall rfl
    Stage.noConfusion _

theorem isSome_answer?_answer (l : Live) (o : Nat) (a : Except ClusterError Answer) :
    ((l.answer o a).answer? o).isSome = true := by
  simp [answer?, answer]

theorem isSome_answer? (ha : History.only o l.answers = [a]) : (l.answer? o).isSome = true := by
  have hmem : a ∈ History.only o l.answers := by
    rw [ha]
    exact List.mem_singleton_self a
  obtain ⟨x, hx, rfl⟩ := List.mem_map.1 hmem
  obtain ⟨hmem, ho⟩ := List.mem_filter.1 hx
  cases hnone : l.answer? o with
  | some a => rfl
  | none =>
    have hne := List.lookup_eq_none_iff.1 hnone x hmem
    simp [of_decide_eq_true ho] at hne

theorem links_answerCall (l : Live) (p : ParticipantId) (o i : Nat) (reply : Reply) :
    (l.answerCall p o i reply).links = l.links := by
  unfold answerCall
  split
  · split
    · rfl
    · split <;> rfl
  · rfl

theorem links_receive (hk : l.links[w]? = some ⟨channel, inbox, job, (seq, reply) :: outbox⟩) :
    ∃ channel', (l.receive w).links = l.links.set w ⟨channel', inbox, job, outbox⟩ := by
  simp only [receive, hk]
  split
  · refine ⟨channel.settle seq, ?_⟩
    split
    · rw [links_answerCall]
    · rfl
  · exact ⟨channel, rfl⟩

/-- A call does not get further from its end as a reply is received. -/
theorem nearer_receive (hcall : l.call? o i = some lc)
    (honward : ∀ r, l.op? o = some r →
      ∃ r', (l.receive (linkOf lc.call.participant)).op? o = some r' ∧ r.Onward r')
    (hk : l.links[linkOf lc.call.participant]? = some k) (hout : k.outbox ≠ []) :
    l.Nearer (l.receive (linkOf lc.call.participant)) o i lc := by
  obtain ⟨channel, inbox, job, _ | ⟨⟨seq, reply⟩, outbox⟩⟩ := k
  · exact absurd rfl hout
  · obtain ⟨r, hr, hi⟩ := call?_eq_some_iff.1 hcall
    obtain ⟨r', hr', hon⟩ := honward r hr
    obtain ⟨lc', hi', hsame, hle⟩ := hon.calls i lc hi
    refine ⟨lc', call?_eq_some_iff.2 ⟨r', hr', hi'⟩, hsame, ?_⟩
    obtain ⟨channel', hlinks⟩ := links_receive hk
    have hlt := (List.getElem?_eq_some_iff.1 hk).1
    rw [backlog, backlog, hlinks, hk, List.getElem?_set_self hlt]
    exact Nat.add_lt_add_of_le_of_lt hle (Nat.lt_succ_self _)

theorem getElem?_ending (r : Running) (j i : Nat) (x : Except FailureKind Answer) :
    (r.ending j x).calls[i]? =
      if j = i then (r.calls[i]?).map ({ · with stage := .ended }) else r.calls[i]? := by
  rw [Asking.calls_ending, List.getElem?_modify, Option.map_eq_map]
  split
  · rfl
  · exact Option.map_id'

/-- As a worker is found to have ended, the calls that wait for it end. -/
theorem disconnect_ends {r : Running} {i : Nat} (hi : r.calls[i]? = some lc)
    (hp : lc.call.participant = p) (hs : lc.stage = .asked seq) :
    (disconnect p r).calls[i]? = some { lc with stage := .ended } := by
  have hmem : i ∈ List.range r.calls.length :=
    List.mem_range.2 (List.getElem?_eq_some_iff.1 hi).1
  have hinv : r.calls[i]? = some { lc with stage := .ended } ∨
      r.calls[i]? = some lc ∧ i ∈ List.range r.calls.length := .inr ⟨hi, hmem⟩
  rw [disconnect]
  clear hmem hi
  -- the calls before it in the list end first, and none is taken up again
  generalize List.range r.calls.length = is at hinv ⊢
  induction is generalizing r with
  | nil =>
    rcases hinv with hended | ⟨-, hmem⟩
    · exact hended
    · cases hmem
  | cons j is ih =>
    apply ih
    beta_reduce
    rcases hinv with hended | ⟨hi, hmem⟩
    · left
      split
      · rw [getElem?_ending, hended]
        split <;> rfl
      · exact hended
    · by_cases hj : j = i
      · subst hj
        left
        rw [if_pos, getElem?_ending, if_pos rfl, hi]
        · rfl
        · rw [hi, Option.any_some, hs, hp]
          simp
      · right
        refine ⟨?_, (List.mem_cons.1 hmem).resolve_left (Ne.symm hj)⟩
        split
        · rw [getElem?_ending, if_neg hj]
          exact hi
        · exact hi

theorem nearer_close (hl : l.Deserted) (hcall : l.call? o i = some lc) (hs : lc.stage = .asked seq)
    (hk : l.links[linkOf lc.call.participant]? = some k) (hout : k.outbox = [])
    (hp : k.channel.worker = lc.call.participant) :
    l.Nearer (l.close (linkOf lc.call.participant)) o i lc := by
  obtain ⟨channel, inbox, job, outbox⟩ := k
  cases hout
  obtain ⟨r, hr, hi⟩ := call?_eq_some_iff.1 hcall
  have hlt := (List.getElem?_eq_some_iff.1 hk).1
  have hends := disconnect_ends hi hp.symm hs
  simp only [close, hk, hl _, Bool.false_eq_true, if_false]
  refine ⟨{ lc with stage := .ended }, ?_, rfl, ?_⟩
  · refine call?_eq_some_iff.2 ⟨disconnect channel.worker r, ?_, hends⟩
    rw [op?, Advances.lookup_leaves]
    exact congrArg (Option.map (disconnect channel.worker)) hr
  · rw [backlog, backlog, hk, List.getElem?_set_self hlt, hs]
    exact Nat.add_lt_add_right (Nat.succ_pos 1) _

end Live

namespace Halting

variable {c : Cluster} {t t' t'' : Halting} {lc : LiveCall}

/-- All parts of a query are there, and one of them is too narrow to go together with the first. -/
structure Torn (c : Cluster) (t : Halting) (o : Nat) : Prop where
  query : ∃ sql, t.begun.lookup o = some (.query sql, c.workerIds)
  whole : ((t.parts o).map Prod.fst).Perm (.coordinator :: c.workerIds)
  narrow : Cluster.isTorn (t.parts o) = true

/-- Whether an operation can be brought to its answer, or to what keeps it from one for good. -/
def Settles (c : Cluster) (t : Halting) (o : Nat) : Prop :=
  ∃ more, ((t.steps more).live.answer? o).isSome = true ∨ (t.steps more).Torn c o

theorem steps_append (t : Halting) (as bs : List Action) :
    t.steps (as ++ bs) = (t.steps as).steps bs := List.foldl_append

theorem Settles.of_steps (more : List Action) (h : (t.steps more).Settles c o) :
    t.Settles c o := by
  obtain ⟨rest, ha⟩ := h
  refine ⟨more ++ rest, ?_⟩
  rw [steps_append]
  exact ha

/-- A deserted cluster has gone on with an operation under way. -/
structure Drains (c : Cluster) (o : Nat) (t t' : Halting) : Prop where
  reach : ∃ more, t.steps more = t'
  kept : Kept c t'
  deserted : t'.live.Deserted
  onward : ∀ r, t.live.op? o = some r → ∃ r', t'.live.op? o = some r' ∧ r.Onward r'

namespace Drains

theorem refl (h : Kept c t) (hl : t.live.Deserted) (o : Nat) : Drains c o t t :=
  ⟨⟨[], rfl⟩, h, hl, fun r hr => ⟨r, hr, .refl r⟩⟩

theorem trans (h : Drains c o t t') (h' : Drains c o t' t'') : Drains c o t t'' where
  reach := by
    obtain ⟨as, rfl⟩ := h.reach
    obtain ⟨bs, rfl⟩ := h'.reach
    exact ⟨as ++ bs, t.steps_append as bs⟩
  kept := h'.kept
  deserted := h'.deserted
  onward r hr := by
    obtain ⟨r', hr', hon⟩ := h.onward r hr
    obtain ⟨r'', hr'', hon'⟩ := h'.onward r' hr'
    exact ⟨r'', hr'', hon.trans hon'⟩

/-- A call that has ended is not taken up again. -/
theorem stays_ended (h : Drains c o t t')
    (hended : ∀ lc, t.live.call? o i = some lc → lc.stage = .ended)
    (hop : t.live.op? o = some r) (hcall : t'.live.call? o i = some lc) : lc.stage = .ended := by
  obtain ⟨r', hr', hi⟩ := Live.call?_eq_some_iff.1 hcall
  obtain ⟨r'', hr'', hon⟩ := h.onward r hop
  cases hr'.symm.trans hr''
  have hlt := (List.getElem?_eq_some_iff.1 hi).1
  rw [hon.size] at hlt
  obtain ⟨lc', hi', -, hle⟩ := hon.calls i _ (List.getElem?_eq_getElem hlt)
  cases hi.symm.trans hi'
  have hbefore := hended _ (Live.call?_eq_some_iff.2 ⟨r, hop, List.getElem?_eq_getElem hlt⟩)
  rw [hbefore] at hle
  exact Stage.rank_eq_zero.1 (Nat.le_zero.1 hle)

end Drains

namespace Kept

theorem drains (h : Kept c t) (hc : c.Formed) (hl : t.live.Deserted) (he : e.isWork = true)
    (hend : ∀ o, e ≠ .conclude o) (o : Nat) : Drains c o t (t.work e) := by
  have hgoes := Live.goes h.numbers he hend
  have hlive : (t.work e).live = t.live.step e := by
    rw [Halting.work, if_pos he]
  constructor
  · exact ⟨[.work e], rfl⟩
  · exact h.work hc e
  · rw [hlive]
    intro w
    exact hgoes.dead w (hl w)
  · intro r hr
    obtain ⟨op, -, hg⟩ := h.slot_of_op? hr
    obtain ⟨r', hr', hon, -⟩ := hgoes.advances.going hr hg
    rw [hlive]
    exact ⟨r', hr', hon⟩

theorem seat (h : Kept c t) (hc : c.Formed) (hp : p ∈ c.workerIds) :
    ∃ k, t.live.links[Live.linkOf p]? = some k ∧ k.channel.worker = p := by
  have hseats := h.seats
  rw [Cluster.workerIds_eq hc.narrow] at hp hseats
  obtain ⟨w, hw, rfl⟩ := List.mem_map.1 hp
  have hlink : (t.live.links.map (·.channel.worker))[w]? = some ⟨w + 1⟩ := by
    rw [hseats, List.getElem?_map, List.getElem?_range (List.mem_range.1 hw)]
    rfl
  rw [List.getElem?_map] at hlink
  exact Option.map_eq_some_iff.1 hlink

theorem exists_nearer (h : Kept c t) (hc : c.Formed) (hl : t.live.Deserted)
    (hcall : t.live.call? o i = some lc) (hs : lc.stage ≠ .ended) :
    ∃ e : Event, e.isWork = true ∧ (∀ o, e ≠ .conclude o) ∧
      t.live.Nearer (t.live.step e) o i lc := by
  obtain ⟨r, hr, hi⟩ := Live.call?_eq_some_iff.1 hcall
  obtain ⟨op, -, hg⟩ := h.slot_of_op? hr
  have hfits := hg.fits lc (List.mem_of_getElem? hi)
  cases htask : lc.call.task with
  | own result =>
    have hfresh := (hfits.own result htask).resolve_right hs
    exact ⟨.own o i, rfl, fun _ => Event.noConfusion, Live.nearer_own hcall htask hfresh⟩
  | ask ahead request =>
    cases hstage : lc.stage with
    | fresh =>
      exact ⟨.prepare o i, rfl, fun _ => Event.noConfusion,
        Live.nearer_prepare hcall htask hstage⟩
    | numbered seq =>
      exact ⟨.send o i, rfl, fun _ => Event.noConfusion, Live.nearer_send hl hcall htask hstage⟩
    | pulling =>
      exact ⟨.pull o i, rfl, fun _ => Event.noConfusion, Live.nearer_pull hcall htask hstage⟩
    | ended => exact absurd hstage hs
    | asked seq =>
      obtain ⟨k, hk, hp⟩ := h.seat hc (hfits.ask ahead request htask)
      by_cases hout : k.outbox = []
      · exact ⟨.close _, rfl, fun _ => Event.noConfusion,
          Live.nearer_close hl hcall hstage hk hout hp⟩
      · refine ⟨.receive _, rfl, fun _ => Event.noConfusion,
          Live.nearer_receive hcall ?_ hk hout⟩
        have hdrains := h.drains hc hl (e := .receive (Live.linkOf lc.call.participant)) rfl
          (fun _ => Event.noConfusion) o
        exact hdrains.onward

/-- Each call of a deserted cluster can be brought to its end. -/
theorem ends_call (h : Kept c t) (hc : c.Formed) (hl : t.live.Deserted)
    (hcall : t.live.call? o i = some lc) : ∃ t', Drains c o t t' ∧
      ∃ lc', t'.live.call? o i = some lc' ∧ lc'.stage = .ended := by
  -- on the stages ahead of the call and the replies ahead of its own
  induction hn : lc.stage.rank + t.live.backlog lc.call.participant using Nat.strong_induction_on
    generalizing t lc with
  | h n ih =>
    by_cases hs : lc.stage = .ended
    · exact ⟨t, .refl h hl o, lc, hcall, hs⟩
    · obtain ⟨e, he, hend, lc', hcall', hsame, hlt⟩ := h.exists_nearer hc hl hcall hs
      have hdrains := h.drains hc hl he hend o
      have hlive : (t.work e).live = t.live.step e := by
        rw [Halting.work, if_pos he]
      rw [← hlive] at hcall' hlt
      rw [hn, ← hsame] at hlt
      obtain ⟨t', hdrains', hended⟩ := ih _ hlt hdrains.kept hdrains.deserted hcall' rfl
      exact ⟨t', hdrains.trans hdrains', hended⟩

theorem ends_calls (h : Kept c t) (hc : c.Formed) (hl : t.live.Deserted)
    (hr : t.live.op? o = some r) : ∃ t' r', Drains c o t t' ∧ t'.live.op? o = some r' ∧
      r'.aim = r.aim ∧ r'.allEnded = true := by
  -- one call after another, while those before it stay as they are
  have hsome : ∀ n, ∃ t', Drains c o t t' ∧ ∀ i < n, ∀ lc, t'.live.call? o i = some lc →
      lc.stage = .ended := by
    intro n
    induction n with
    | zero => exact ⟨t, .refl h hl o, fun i hi => absurd hi (Nat.not_lt_zero i)⟩
    | succ n ih =>
      obtain ⟨t', hdrains, hended⟩ := ih
      obtain ⟨r', hr', -⟩ := hdrains.onward r hr
      cases hcall : t'.live.call? o n with
      | none =>
        refine ⟨t', hdrains, ?_⟩
        intro i hi lc hlc
        rcases Nat.lt_or_eq_of_le (Nat.le_of_lt_succ hi) with hlt | rfl
        · exact hended i hlt lc hlc
        · cases hcall.symm.trans hlc
      | some lc =>
        obtain ⟨t'', hdrains', lc', hcall', hs⟩ :=
          hdrains.kept.ends_call hc hdrains.deserted hcall
        refine ⟨t'', hdrains.trans hdrains', ?_⟩
        intro i hi lc'' hlc
        rcases Nat.lt_or_eq_of_le (Nat.le_of_lt_succ hi) with hlt | rfl
        · exact hdrains'.stays_ended (hended i hlt) hr' hlc
        · cases hcall'.symm.trans hlc
          exact hs
  obtain ⟨t', hdrains, hended⟩ := hsome r.calls.length
  obtain ⟨r', hr', hon⟩ := hdrains.onward r hr
  refine ⟨t', r', hdrains, hr', hon.aim, ?_⟩
  refine List.all_eq_true.2 fun lc hlc => decide_eq_true ?_
  obtain ⟨i, hi⟩ := List.getElem?_of_mem hlc
  have hlt := (List.getElem?_eq_some_iff.1 hi).1
  rw [hon.size] at hlt
  exact hended i hlt lc (Live.call?_eq_some_iff.2 ⟨r', hr', hi⟩)

theorem torn_of_breaksOff (h : Kept c t) (hr : t.live.op? o = some r) (hall : r.allEnded = true)
    (haim : r.aim = .conclude goal) (hoff : Cluster.breaksOff (.ofEnded r.ended) goal = true) :
    t.Torn c o := by
  obtain ⟨op, hslot, hg⟩ := h.slot_of_op? hr
  have hb : t.begun.lookup o = some (op, c.workerIds) := by injection hslot
  have hdoing := hg.doing goal haim
  have hserves := hdoing.serves
  cases goal with
  | queried issued =>
    obtain ⟨hcomplete, hnarrow⟩ := Bool.and_eq_true_iff.1 hoff
    cases op with
    | query sql =>
      have hparts : t.parts o = r.ended.filterMap Outcome.completed? := hdoing.parts
      refine ⟨⟨sql, hb⟩, hdoing.perm_whole hall hcomplete rfl, ?_⟩
      rw [hparts]
      exact hnarrow
    | _ => cases hserves
  | _ => cases hoff

/-- Once its calls have ended, an operation is answered or its calls are undone. -/
theorem concludes (h : Kept c t) (hl : t.live.Deserted) (hr : t.live.op? o = some r)
    (hall : r.allEnded = true) :
    ((t.live.conclude o).answer? o).isSome = true ∨ t.Torn c o ∨
      (t.live.conclude o).Deserted ∧ (∃ goal, r.aim = .conclude goal) ∧
        ∃ r' a, (t.live.conclude o).op? o = some r' ∧ r'.aim = .give a := by
  obtain ⟨op, -, hg⟩ := h.slot_of_op? hr
  cases haim : r.aim with
  | give a =>
    left
    simp only [Live.conclude, hr, hall, haim, Bool.not_true, Bool.false_eq_true, if_false]
    exact Live.isSome_answer?_answer ..
  | conclude goal =>
    obtain ⟨⟨own, net, hcluster⟩, -⟩ :=
      t.live.cluster.conclude_spec (.ofEnded r.ended) (hg.doing goal haim).serves
    simp only [Live.conclude, hr, hall, haim, hcluster, Bool.not_true, Bool.false_eq_true, if_false]
    split
    · next hoff => exact .inr (.inl (h.torn_of_breaksOff hr hall haim hoff))
    · split
      · exact .inl (Live.isSome_answer?_answer ..)
      · exact .inr (.inr ⟨hl, ⟨goal, rfl⟩, _, _, Live.op?_replaced hr _, rfl⟩)

theorem settles_of_give (h : Kept c t) (hc : c.Formed) (hl : t.live.Deserted)
    (hr : t.live.op? o = some r) (ha : r.aim = .give a) : t.Settles c o := by
  obtain ⟨t', r', hdrains, hr', haim, hall⟩ := h.ends_calls hc hl hr
  obtain ⟨more, rfl⟩ := hdrains.reach
  apply Settles.of_steps more
  have hconcluded := hdrains.kept.concludes hdrains.deserted hr' hall
  rcases hconcluded with hanswer | htorn | ⟨-, ⟨goal, hgoal⟩, -⟩
  · exact ⟨[.work (.conclude o)], .inl hanswer⟩
  · exact ⟨[], .inr htorn⟩
  · cases ha.symm.trans (haim.symm.trans hgoal)

theorem settles_of_op? (h : Kept c t) (hc : c.Formed) (hl : t.live.Deserted)
    (hr : t.live.op? o = some r) : t.Settles c o := by
  obtain ⟨t', r', hdrains, hr', -, hall⟩ := h.ends_calls hc hl hr
  obtain ⟨more, rfl⟩ := hdrains.reach
  apply Settles.of_steps more
  have hconcluded := hdrains.kept.concludes hdrains.deserted hr' hall
  rcases hconcluded with hanswer | htorn | ⟨hl', -, r'', a, hr'', ha⟩
  · exact ⟨[.work (.conclude o)], .inl hanswer⟩
  · exact ⟨[], .inr htorn⟩
  · apply Settles.of_steps [.work (.conclude o)]
    exact (hdrains.kept.work hc (.conclude o)).settles_of_give hc hl' hr'' ha

theorem issues (h : Kept c t) (hl : t.live.Deserted) (hd : t.live.drafts.lookup o = some d) :
    (t.issue o).live.Deserted ∧ ((∃ r, (t.issue o).live.op? o = some r) ∨
      d.tokens.length < c.workers.length ∧ ∃ d', (t.issue o).live.drafts.lookup o = some d' ∧
        d'.tokens.length = d.tokens.length + 1) := by
  obtain ⟨-, hr, -, -, sql, hb⟩ := h.slot_of_draft hd
  have hissue : (t.issue o).live = t.live.through t.live.cluster.workers.length (·.issue o) := by
    rw [Halting.issue, hb, h.size, ← Cluster.length_workerIds]
  rw [hissue, ← h.size]
  by_cases hlt : d.tokens.length < t.live.cluster.workers.length
  · obtain ⟨ds, hds, hthrough⟩ := Live.through_issue_next hd hlt
    rw [hthrough]
    have hd' := hds o
    rw [if_pos rfl] at hd'
    exact ⟨hl, .inr ⟨hlt, _, hd', List.length_append⟩⟩
  · rw [Live.through_issue_last hd hlt]
    refine ⟨hl, .inl ?_⟩
    simp only [Live.op?, lookup_snoc, hr, if_true, Option.none_or]
    exact ⟨_, rfl⟩

theorem settles_of_draft (h : Kept c t) (hc : c.Formed) (hl : t.live.Deserted)
    (hd : t.live.drafts.lookup o = some d) : t.Settles c o := by
  -- on the tokens that are still to be taken
  induction hn : c.workers.length - d.tokens.length using Nat.strong_induction_on
    generalizing t d with
  | h n ih =>
    apply Settles.of_steps [.issue o]
    obtain ⟨hl', ⟨r, hr⟩ | ⟨hlt, d', hd', hlen⟩⟩ := h.issues hl hd
    · exact (h.issue o).settles_of_op? hc hl' hr
    · exact ih _ (by omega) (h.issue o) hl' hd' rfl

theorem steps_kill (t : Halting) {ps : List ParticipantId} (hps : ∀ p ∈ ps, p ∈ t.doomed) :
    t.steps (ps.map .kill) =
      { t with live := (ps.map Live.linkOf).foldl Live.kill t.live } := by
  induction ps generalizing t with
  | nil => rfl
  | cons p ps ih =>
    have hkill : t.kill p = { t with live := t.live.kill (Live.linkOf p) } := by
      rw [Halting.kill, if_pos (hps p (List.mem_cons_self ..))]
    show (t.kill p).steps (ps.map .kill) = _
    rw [hkill, ih]
    · rfl
    · exact fun q hq => hps q (List.mem_cons_of_mem p hq)

/-- Once its workers are taken off the list, a cluster is deserted as they are ended. -/
theorem kills (h : Kept c t) (hc : c.Formed) (hm : t.isMarked = true) :
    (t.steps (.unlist :: c.workerIds.map .kill)) =
      { t with
        live := t.live.desert
        listed := []
        doomed := t.doomed ++ t.listed } := by
  have hunlist : t.unlist = { t with listed := [], doomed := t.doomed ++ t.listed } := by
    rw [Halting.unlist, if_pos hm]
  have hdoomed : ∀ p ∈ c.workerIds, p ∈ t.unlist.doomed := by
    intro p hp
    rw [hunlist]
    exact List.mem_append.2 (h.known p hp).symm
  have hlinks : c.workerIds.map Live.linkOf = List.range t.live.cluster.workers.length := by
    rw [Cluster.workerIds_eq hc.narrow, List.map_map, h.size]
    exact List.map_id _
  have hlen : t.live.links.length = t.live.cluster.workers.length := by
    rw [h.size, ← c.length_workerIds, ← h.seats, List.length_map]
  show t.unlist.steps _ = _
  rw [steps_kill t.unlist hdoomed, hlinks, hunlist]
  congr 1
  exact t.live.kill_each hlen

/-- Once a cluster is marked, each operation that began can be brought to its end. -/
theorem settles (h : Kept c t) (hc : c.Formed) (hm : t.isMarked = true)
    (hb : t.begun.lookup o = some (op, ps)) : t.Settles c o := by
  have hkept := h.steps hc (.unlist :: c.workerIds.map .kill)
  apply Settles.of_steps (.unlist :: c.workerIds.map .kill)
  rw [h.kills hc hm] at hkept ⊢
  have hl := t.live.deserted_desert
  have hsound := h.slots o
  have hbegun : (t.slot o).begun = some (op, ps) := hb
  generalize hslot : t.slot o = s at hsound hbegun
  cases hsound with
  | unused => cases hbegun
  | refused => cases hbegun
  | drafted d sql => exact hkept.settles_of_draft hc hl (by injection hslot)
  | going hg => exact hkept.settles_of_op? hc hl (by injection hslot)
  | told ht =>
    injection hslot with _ _ hanswers
    exact ⟨[], .inl (Live.isSome_answer? hanswers)⟩

end Kept

end Halting

end ShardQuery
