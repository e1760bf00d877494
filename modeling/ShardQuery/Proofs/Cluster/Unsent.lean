import ShardQuery.Proofs.Cluster.Admission
import ShardQuery.Proofs.Cluster.History

namespace ShardQuery

/-! ### Ids that are still at the coordinator -/

/-- The id that a request has from a token of its own. -/
def Request.issuedId? : Request → Option MessageId
  | .createTable _ id => some id
  | .runQuery _ id _ => some id
  | _ => none

def Call.issuedId? (c : Call) : Option MessageId :=
  match c.task with
  | .own _ => none
  | .ask _ r => r.issuedId?

/-- The id of a request that is still to be sent. -/
def LiveCall.unsentId? (c : LiveCall) : Option MessageId :=
  match c.stage with
  | .fresh => c.call.issuedId?
  | .numbered _ => c.call.issuedId?
  | _ => none

def Running.unsentIds (r : Running) : List MessageId := r.calls.filterMap LiveCall.unsentId?

/-- The ids of the tokens that were taken for a query so far. -/
def Draft.ids (d : Draft) : List MessageId := d.tokens.map CorrelationToken.messageId

/-- The ids made of the tokens after one number, up to another. -/
def freshIds (m n : Nat) : List MessageId :=
  (List.range' (m + 1) (n - m)).map fun k => (CorrelationToken.mk k).messageId

namespace Live

def issued (l : Live) : Nat := l.cluster.tokens.issued

/-- The ids of all requests that are still to be sent. -/
def unsentIds (l : Live) : List MessageId := l.running.flatMap fun p => p.2.unsentIds

/-- The ids of the queries that were not sent out yet. -/
def draftedIds (l : Live) : List MessageId := l.drafts.flatMap fun p => p.2.ids

/-- How many tokens the queries that were not sent out have still to take. -/
def owed (l : Live) : Nat :=
  (l.drafts.map fun p => l.cluster.workers.length - p.2.tokens.length).sum

/-- The requests that come into the workers' queues from one state to the next. -/
def queued (l l' : Live) : List Request :=
  (List.zipWith (fun k k' : Link => (k'.inbox.drop k.inbox.length).map Prod.snd)
    l.links l'.links).flatten

def numbers (l : Live) : List Nat := l.drafts.map Prod.fst ++ l.running.map Prod.fst

/-- No number is that of two operations, or of one that is still to come. -/
structure Numbered (l : Live) : Prop where
  nodup : l.numbers.Nodup
  below : ∀ o ∈ l.numbers, o < l.begun

end Live

section FreshIds

variable {m n k : Nat} {id : MessageId}

theorem freshIds_append (h : m ≤ n) (h' : n ≤ k) : freshIds m n ++ freshIds n k = freshIds m k := by
  rw [freshIds, freshIds, freshIds, ← List.map_append]
  congr 1
  have hn : n + 1 = m + 1 + (n - m) := by omega
  have hk : k - m = (n - m) + (k - n) := by omega
  rw [hn, hk, ← List.range'_append_1]

theorem freshIds_succ (n : Nat) :
    freshIds n (n + 1) = [(CorrelationToken.mk (n + 1)).messageId] := by
  rw [freshIds, Nat.add_sub_cancel_left]
  rfl

theorem nodup_freshIds (m n : Nat) : (freshIds m n).Nodup := by
  have hnumbers : (List.range' (m + 1) (n - m)).Nodup := List.nodup_range'
  exact hnumbers.map fun _ _ h =>
    congrArg CorrelationToken.number (CorrelationToken.messageId_injective h)

theorem mem_freshIds_iff : id ∈ freshIds m n ↔
    ∃ k, m < k ∧ k ≤ n ∧ id = (CorrelationToken.mk k).messageId := by
  simp only [freshIds, List.mem_map, List.mem_range'_1]
  constructor
  · rintro ⟨k, hk, rfl⟩
    exact ⟨k, by omega, by omega, rfl⟩
  · rintro ⟨k, hm, hn, rfl⟩
    exact ⟨k, by omega, rfl⟩

theorem map_messageId_issue (c : Cluster) : c.issue.1.map CorrelationToken.messageId =
    freshIds c.tokens.issued (c.tokens.issued + c.workers.length) := by
  rw [Cluster.issue_eq, freshIds, Nat.add_sub_cancel_left, List.range'_eq_map_range, List.map_map,
    List.map_map]
  refine List.map_congr_left fun i _ => ?_
  show _ = (CorrelationToken.mk (c.tokens.issued + 1 + i)).messageId
  rw [Nat.add_right_comm]
  rfl

end FreshIds

/-! ### Numbers and counts -/

namespace Live

variable {l l' m : Live} {r r' : Running} {lc : LiveCall}

theorem Numbered.running (h : l.Numbered) : (l.running.map Prod.fst).Nodup :=
  (List.nodup_append.1 h.nodup).2.1

theorem Numbered.drafts (h : l.Numbered) : (l.drafts.map Prod.fst).Nodup :=
  (List.nodup_append.1 h.nodup).1

theorem Numbered.of_subperm (h : l.Numbered) (hp : l'.numbers.Subperm l.numbers)
    (hb : l.begun ≤ l'.begun) : l'.Numbered where
  nodup := by
    obtain ⟨ns, hns, hsub⟩ := hp
    exact hns.nodup_iff.1 (h.nodup.sublist hsub)
  below o ho := Nat.lt_of_lt_of_le (h.below o (hp.subset ho)) hb

theorem Numbered.next (h : l.Numbered) (hp : l'.numbers.Perm (l.begun :: l.numbers))
    (hb : l'.begun = l.begun + 1) : l'.Numbered where
  nodup := by
    refine hp.nodup_iff.2 (List.nodup_cons.2 ⟨?_, h.nodup⟩)
    exact fun hm => Nat.lt_irrefl _ (h.below _ hm)
  below o ho := by
    rw [hb]
    rcases List.mem_cons.1 (hp.subset ho) with rfl | hm
    · exact Nat.lt_succ_self _
    · exact Nat.lt_succ_of_lt (h.below o hm)

theorem count_unsentIds (h : l.Numbered) (hr : l.op? o = some r) {f : Running → Running}
    (hm : m.running = (l.modifyOp o f).running) (id : MessageId) :
    m.unsentIds.count id + r.unsentIds.count id =
      l.unsentIds.count id + (f r).unsentIds.count id := by
  obtain ⟨pre, post, hrs, hmap, -⟩ := exists_numbered h.running hr
  rw [unsentIds, unsentIds, hm.trans (hmap f), hrs]
  simp only [List.flatMap_append, List.flatMap_cons, List.count_append]
  omega

theorem count_unsentIds_filter (h : l.Numbered) (hr : l.op? o = some r)
    (hm : m.running = l.running.filter (·.1 ≠ o)) (id : MessageId) :
    m.unsentIds.count id + r.unsentIds.count id = l.unsentIds.count id := by
  obtain ⟨pre, post, hrs, -, hfilter⟩ := exists_numbered h.running hr
  rw [unsentIds, unsentIds, hm.trans hfilter, hrs]
  simp only [List.flatMap_append, List.flatMap_cons, List.count_append]
  omega

/-- A call that sends its request leaves the id to the worker. -/
theorem count_unsentIds_sent {r : Running} (hi : r.calls[i]? = some ⟨call, .numbered seq⟩)
    (id : MessageId) : call.issuedId?.toList.count id +
      (r.withStage i (.asked seq)).unsentIds.count id = r.unsentIds.count id := by
  obtain ⟨pre, post, hcalls, hmodify⟩ := exists_modify hi fun c => { c with stage := .asked seq }
  have hr' : (r.withStage i (.asked seq)).calls = pre ++ ⟨call, .asked seq⟩ :: post := hmodify
  have hold : LiveCall.unsentId? ⟨call, .numbered seq⟩ = call.issuedId? := rfl
  have hnew : LiveCall.unsentId? ⟨call, .asked seq⟩ = none := rfl
  rw [Running.unsentIds, Running.unsentIds, hr', hcalls]
  simp only [List.filterMap_append, List.filterMap_cons, List.count_append, hold, hnew]
  cases call.issuedId? with
  | none => simp
  | some id' =>
    simp only [Option.toList_some, List.count_cons, List.count_nil]
    omega

theorem unsentIds_fresh (calls : List Call) (now : Nat) (aim : Aim) :
    (Running.fresh calls now aim).unsentIds = calls.filterMap Call.issuedId? := by
  rw [Running.unsentIds, Running.fresh, List.filterMap_map]
  rfl

/-! ### Calls that go on -/

theorem unsentId_sublist {lc' : LiveCall} (hcall : lc'.call = lc.call)
    (hle : lc'.stage.rank ≤ lc.stage.rank) :
    lc'.unsentId?.toList.Sublist lc.unsentId?.toList := by
  obtain ⟨call, s⟩ := lc
  obtain ⟨call', s'⟩ := lc'
  obtain rfl : call' = call := hcall
  cases s' with
  | fresh =>
    cases s with
    | fresh => exact .refl _
    | _ => simp [Stage.rank] at hle
  | numbered seq =>
    cases s with
    | fresh => exact .refl _
    | numbered seq' => exact .refl _
    | _ => simp [Stage.rank] at hle
  | _ => exact List.nil_sublist _

theorem flatMap_unsentId_sublist {cs cs' : List LiveCall} (hlen : cs'.length = cs.length)
    (hon : ∀ (i : Nat) lc, cs[i]? = some lc →
      ∃ lc', cs'[i]? = some lc' ∧ lc'.call = lc.call ∧ lc'.stage.rank ≤ lc.stage.rank) :
    (cs'.flatMap (·.unsentId?.toList)).Sublist (cs.flatMap (·.unsentId?.toList)) := by
  induction cs generalizing cs' with
  | nil =>
    cases List.length_eq_zero_iff.1 hlen
    exact .slnil
  | cons c cs ih =>
    cases cs' with
    | nil => cases hlen
    | cons c' cs' =>
      obtain ⟨_, hc', hcall, hle⟩ := hon 0 c rfl
      cases hc'
      rw [List.flatMap_cons, List.flatMap_cons]
      exact (unsentId_sublist hcall hle).append
        (ih (Nat.succ.inj hlen) fun i lc hi => hon (i + 1) lc hi)

theorem unsentIds_onward (h : r.Onward r') : r'.unsentIds.Sublist r.unsentIds := by
  rw [Running.unsentIds, Running.unsentIds, List.filterMap_eq_flatMap_toList,
    List.filterMap_eq_flatMap_toList]
  exact flatMap_unsentId_sublist h.size h.calls

/-- All operations are there as before, each with its calls gone on. -/
def Onward (l : Live) (rs : List (Nat × Running)) : Prop :=
  List.Forall₂ (fun p p' => p.2.Onward p'.2) l.running rs

theorem onward_modifyOp (hl : (l.running.map Prod.fst).Nodup) {f : Running → Running}
    (hf : ∀ r, l.op? o = some r → r.Onward (f r)) : l.Onward (l.modifyOp o f).running := by
  rw [Onward, modifyOp, List.forall₂_map_right_iff]
  refine List.forall₂_same.2 ?_
  rintro ⟨n, r⟩ hmem
  show r.Onward (if n = o then (n, f r) else (n, r)).2
  split
  · next hn =>
    subst hn
    exact hf r (lookup_of_mem hl hmem)
  · exact .refl r

theorem Advances.onward (h : l.Advances rs news) (hl : (l.running.map Prod.fst).Nodup) :
    l.Onward rs := by
  have hthis : ∀ {o i lc r}, l.call? o i = some lc → l.op? o = some r → r.calls[i]? = some lc := by
    intro o i lc r hcall hr
    obtain ⟨r', hr', hi⟩ := call?_eq_some_iff.1 hcall
    cases hr.symm.trans hr'
    exact hi
  cases h with
  | rest => exact List.forall₂_same.2 fun p _ => .refl p.2
  | turns hcall htask hs hpos =>
    exact onward_modifyOp hl fun r hr => .atStage (hthis hcall hr) (Nat.le_of_lt hs) rfl rfl
  | fails hcall hs k => exact onward_modifyOp hl fun r hr => .ending (hthis hcall hr) _
  | comes hcall hs ha => exact onward_modifyOp hl fun r hr => .ending (hthis hcall hr) _
  | leaves p =>
    rw [Onward, List.forall₂_map_right_iff]
    exact List.forall₂_same.2 fun q _ => .disconnect q.2 p

theorem Onward.unsentIds (h : l.Onward rs) :
    (rs.flatMap fun p => p.2.unsentIds).Sublist l.unsentIds := by
  rw [Live.unsentIds]
  unfold Onward at h
  generalize l.running = olds at h
  induction h with
  | nil => exact .slnil
  | cons hon _ ih =>
    rw [List.flatMap_cons, List.flatMap_cons]
    exact (unsentIds_onward hon).append ih

end Live

end ShardQuery
