import ShardQuery.Proofs.Cluster.Binding
import ShardQuery.Proofs.Cluster.Spending

namespace ShardQuery

theorem Engine.bindsResult_iff {e : Engine} {sql : String} :
    e.BindsResult sql ↔ (e.prepare sql).toOption.isSome = true := by
  cases hp : e.prepare sql with
  | ok p =>
    obtain ⟨hreads, hpicks⟩ := prepare_eq_ok_iff.1 hp
    exact ⟨fun _ => rfl, fun _ => ⟨_, _, hreads, hpicks⟩⟩
  | error x =>
    constructor
    · rintro ⟨q, b, hreads, hpicks⟩
      cases hp.symm.trans (prepare_eq_ok_iff (p := ⟨q, b⟩).2 ⟨hreads, hpicks⟩)
    · intro h
      cases h

instance (e : Engine) (sql : String) : Decidable (e.BindsResult sql) :=
  decidable_of_iff _ Engine.bindsResult_iff.symm

def Cluster.charge (c : Cluster) (n : Nat) : Operation → Nat
  | .create .. => if c.phase = .ready then n else 0
  | .query sql =>
    if c.phase = .ready then if c.own.BindsResult sql then n + 1 else 1
    else 0
  | _ => 0

def Event.begins? : Event → Option Operation
  | .start op => some op
  | .draft sql => some (.query sql)
  | _ => none

namespace Live

def charge (l : Live) (n : Nat) (e : Event) : Nat := (e.begins?.map (l.cluster.charge n)).getD 0

def charges (l : Live) (n : Nat) : List Event → Nat
  | [] => 0
  | e :: events => l.charge n e + (l.step e).charges n events

def sent (l : Live) : List Event → List Request
  | [] => []
  | e :: events => l.queued (l.step e) ++ (l.step e).sent events

variable {l : Live} {d : Draft}

theorem links_issue (l : Live) (o : Nat) : (l.issue o).links = l.links := by
  unfold issue
  split
  · rfl
  · split <;> rfl

/-- A query that takes a token for its next worker owes one less. -/
theorem spends_take (hn : l.Numbered) (hd : l.drafts.lookup o = some d)
    (hlt : d.tokens.length < l.cluster.workers.length) :
    l.Spends { l with
      cluster := { l.cluster with tokens := l.cluster.tokens.next.2 }
      drafts := l.drafts.map fun (n, d) =>
        if n = o then (n, { d with tokens := d.tokens ++ [l.cluster.tokens.next.1] })
        else (n, d) } [] 0 := by
  obtain ⟨pre, post, hds, hmap, -⟩ := exists_numbered hn.drafts hd
  rw [hmap fun d => { d with tokens := d.tokens ++ [l.cluster.tokens.next.1] }]
  exact {
    size := rfl
    members := rfl
    numbered := by
      refine hn.of_subperm (List.Perm.of_eq ?_).subperm (Nat.le_refl _)
      simp only [numbers, hds, List.map_append, List.map_cons]
    later := Nat.le_succ _
    tokens := by
      simp only [issued, owed, hds, TokenIssuer.next, List.map_append, List.map_cons,
        List.sum_append, List.sum_cons, List.length_append, List.length_singleton]
      omega
    spent := by
      intro id
      have hfresh : freshIds l.issued (l.issued + 1) = [l.cluster.tokens.next.1.messageId] :=
        freshIds_succ _
      show _ ≤ _ + (freshIds l.issued (l.issued + 1)).count id
      simp only [hfresh, unsentIds, draftedIds, Draft.ids, hds, List.flatMap_append,
        List.flatMap_cons, List.map_append, List.map_singleton, List.count_append, List.count_nil]
      omega }

/-- A query that is sent out goes out under the tokens that were taken for it. -/
theorem dispatch_ids (c : Cluster) (d : Draft) :
    ((c.dispatch d).1.filterMap Call.issuedId?).Sublist d.ids := by
  refine filterMap_zipWith_sublist (g := Call.issuedId?) (h := CorrelationToken.messageId) ?_
    c.workerIds d.tokens
  intro p t
  rfl

theorem spends_dispatch (hn : l.Numbered) (hd : l.drafts.lookup o = some d)
    (hlt : ¬ d.tokens.length < l.cluster.workers.length) :
    l.Spends { l with
      drafts := l.drafts.filter (·.1 ≠ o)
      running := l.running ++ [(o, .fresh (l.cluster.dispatch d).1 l.now
        (.conclude (l.cluster.dispatch d).2))] } [] 0 := by
  obtain ⟨pre, post, hds, -, hfilter⟩ := exists_numbered hn.drafts hd
  rw [hfilter]
  exact {
    size := rfl
    members := rfl
    numbered := by
      refine hn.of_subperm (List.Perm.subperm ?_) (Nat.le_refl _)
      simp only [numbers, hds, List.map_append, List.map_cons, List.map_nil]
      -- its number goes from the drafts to the end of those that are under way
      rw [List.append_assoc, List.append_assoc]
      apply List.Perm.append_left
      rw [← List.append_assoc]
      exact List.perm_append_singleton o _
    later := Nat.le_refl _
    tokens := by
      simp only [issued, owed, hds, List.map_append, List.map_cons, List.sum_append,
        List.sum_cons]
      omega
    spent := by
      intro id
      have hids := (dispatch_ids l.cluster d).count_le id
      simp only [unsentIds, draftedIds, hds, List.flatMap_append, List.flatMap_cons,
        List.flatMap_nil, List.append_nil, List.count_append, List.count_nil, unsentIds_fresh]
      omega }

theorem spends_issue (hn : l.Numbered) (o : Nat) : l.Spends (l.issue o) [] 0 := by
  unfold issue
  split
  · exact .refl hn
  · next d hd =>
    split
    · next hlt => exact spends_take hn hd hlt
    · next hlt => exact spends_dispatch hn hd hlt

theorem spends_issues (hn : l.Numbered) (o k : Nat) :
    l.Spends (l.steps (List.replicate k (.issue o))) [] 0 := by
  induction k generalizing l with
  | zero => exact .refl hn
  | succ k ih =>
    have hissue := spends_issue hn o
    exact hissue.trans (ih hissue.numbered)

/-- An operation that is answered as it begins may have taken tokens before. -/
theorem spends_answered (hn : l.Numbered) (own : Engine) (k : Nat)
    (answers : List (Nat × Except ClusterError Answer)) :
    l.Spends { l with
      cluster := { l.cluster with own, tokens := ⟨l.issued + k⟩ }
      begun := l.begun + 1
      answers } [] k where
  size := rfl
  members := rfl
  numbered := hn.of_subperm (.refl _) (Nat.le_succ _)
  later := Nat.le_add_right ..
  tokens := Nat.add_right_comm ..
  spent id := by
    rw [List.count_nil, Nat.zero_add]
    exact Nat.le_add_right ..

theorem spends_waiting (hn : l.Numbered) (own : Engine) (k : Nat) {calls : List Call}
    (hids : (calls.filterMap Call.issuedId?).Sublist (freshIds l.issued (l.issued + k)))
    (goal : Goal) :
    l.Spends { l with
      cluster := { l.cluster with own, tokens := ⟨l.issued + k⟩ }
      begun := l.begun + 1
      running := l.running ++ [(l.begun, .fresh calls l.now (.conclude goal))] } [] k where
  size := rfl
  members := rfl
  numbered := by
    apply hn.next _ rfl
    rw [numbers, numbers, List.map_append, ← List.append_assoc]
    exact List.perm_append_singleton ..
  later := Nat.le_add_right ..
  tokens := Nat.add_right_comm ..
  spent id := by
    have hcount := hids.count_le id
    show _ ≤ _ + (freshIds l.issued (l.issued + k)).count id
    simp only [unsentIds, draftedIds, List.flatMap_append, List.flatMap_cons, List.flatMap_nil,
      List.append_nil, List.count_append, List.count_nil, unsentIds_fresh]
    omega

/-- A query that can be prepared owes a token for each worker, besides the one that it takes. -/
theorem spends_drafted (hn : l.Numbered) (sql : String) (p : Engine.Prepared) :
    l.Spends { l with
      cluster := l.cluster.withToken
      begun := l.begun + 1
      drafts := l.drafts ++ [(l.begun, ⟨sql, p, []⟩)] } [] (l.cluster.workers.length + 1) where
  size := rfl
  members := rfl
  numbered := by
    apply hn.next _ rfl
    simp only [numbers, List.map_append, List.map_cons, List.map_nil]
    rw [List.append_assoc]
    exact List.perm_middle
  later := Nat.le_succ _
  tokens := by
    simp only [issued, owed, Cluster.withToken, List.map_append, List.map_cons, List.map_nil,
      List.sum_append, List.sum_cons, List.sum_nil, List.length_nil]
    omega
  spent id := by
    simp only [unsentIds, draftedIds, Draft.ids, List.flatMap_append, List.flatMap_cons,
      List.flatMap_nil, List.map_nil, List.append_nil, List.count_nil, Nat.zero_add]
    exact Nat.le_add_right ..

/-- A query is charged as it is prepared, also for the tokens that it takes later. -/
theorem spends_draft (hn : l.Numbered) (sql : String) :
    l.Spends (l.draft sql) [] (l.cluster.charge l.cluster.workers.length (.query sql)) := by
  by_cases hr : l.cluster.phase = .ready
  · rw [Cluster.charge, if_pos hr, draft, Cluster.draft_of_ready hr]
    cases hp : l.cluster.own.prepare sql with
    | error x =>
      rw [if_neg (by rw [Engine.bindsResult_iff, hp]; exact Bool.noConfusion)]
      exact spends_answered hn l.cluster.own 1 _
    | ok p =>
      rw [if_pos (Engine.bindsResult_iff.2 (by rw [hp]; rfl))]
      exact spends_drafted hn sql p
  · have hready : l.cluster.ready "sql" = .error (.notReady "sql" l.cluster.phase) := if_neg hr
    rw [Cluster.charge, if_neg hr, draft, Cluster.draft, hready]
    exact spends_answered hn l.cluster.own 0 _

end Live

namespace Cluster

variable {c : Cluster}

/-- An operation that is not a query, once it has begun with `k` tokens. -/
structure Charged (c : Cluster) (k : Nat) (next : Cluster × Begun) : Prop where
  cluster : ∃ own, next.1 = { c with own, tokens := ⟨c.tokens.issued + k⟩ }
  ids : ∀ calls goal, next.2 = .waiting calls goal →
    (calls.filterMap Call.issuedId?).Sublist (freshIds c.tokens.issued (c.tokens.issued + k))

namespace Charged

theorem answered (c : Cluster) (own : Engine) (k : Nat) (a : Except ClusterError Answer) :
    c.Charged k ({ c with own, tokens := ⟨c.tokens.issued + k⟩ }, .answered a) where
  cluster := ⟨own, rfl⟩
  ids := by
    intro calls goal h
    cases h

theorem waiting (c : Cluster) (own : Engine) (k : Nat) (goal : Goal)
    (h : (calls.filterMap Call.issuedId?).Sublist
      (freshIds c.tokens.issued (c.tokens.issued + k))) :
    c.Charged k ({ c with own, tokens := ⟨c.tokens.issued + k⟩ }, .waiting calls goal) where
  cluster := ⟨own, rfl⟩
  ids := by
    intro calls' goal' he
    cases he
    exact h

theorem answering {r : Except ClusterError (Cluster × Begun)}
    (h : ∀ next, r = .ok next → c.Charged 0 next) : c.Charged 0 (c.answering r) := by
  cases r with
  | ok next => exact h next rfl
  | error e => exact answered c c.own 0 _

end Charged

/-- The calls that bring shares to the workers go out under the tokens taken for them. -/
theorem create_ids (c : Cluster) (name : String) (parts : List Batch) :
    ((c.callEach (fun p (s : Share) => ⟨p, .ask (some s) (.createTable name s.id)⟩)
      (List.zipWith (fun t b => Share.mk t t.messageId b) c.issue.1 parts)).filterMap
        Call.issuedId?).Sublist
      (freshIds c.tokens.issued (c.tokens.issued + c.workers.length)) := by
  rw [← map_messageId_issue]
  refine (filterMap_zipWith_sublist (g := Call.issuedId?) (h := Share.id) ?_ _ _).trans ?_
  · intro p s
    rfl
  · rw [← List.filterMap_eq_map, List.zipWith_comm]
    refine filterMap_zipWith_sublist (g := some ∘ Share.id) (h := CorrelationToken.messageId)
      ?_ _ _
    intro b t
    rfl

theorem charged_create (hsize : c.members.size = c.workers.length + 1) (name : String)
    (batch : Batch) : c.Charged (c.charge c.workers.length (.create name batch))
      (c.start (.create name batch)) := by
  by_cases hr : c.phase = .ready
  · have hready : c.ready "create table" = .ok () := if_pos hr
    obtain ⟨parts, hparts, -, -⟩ := batch.split_eq_ok (Nat.succ_pos c.workers.length)
    rw [charge, if_pos hr, start, beginCreate, hready, hsize, hparts]
    have hids := c.create_ids name parts.tail
    cases hown : c.own.create name (parts.headD (.empty batch.schema)) with
    | ok own =>
      simp only [lift, Except.mapError, Except.ok_bind, issue_eq, hown, answering]
      exact .waiting c own c.workers.length _ hids
    | error x =>
      simp only [lift, Except.mapError, Except.ok_bind, issue_eq, hown, answering]
      exact .answered c c.own c.workers.length _
  · have hready : c.ready "create table" = .error (.notReady "create table" c.phase) := if_neg hr
    rw [charge, if_neg hr, start, beginCreate, hready]
    exact .answered c c.own 0 _

theorem unissued_callEach {f : ParticipantId → α → Call} (hf : ∀ p v, (f p v).issuedId? = none)
    (values : List α) : (c.callEach f values).filterMap Call.issuedId? = [] := by
  refine List.filterMap_eq_nil_iff.2 fun call hcall => ?_
  obtain ⟨i, hi⟩ := List.getElem?_of_mem hcall
  obtain ⟨p, v, -, -, rfl⟩ := List.getElem?_zipWith_eq_some.1 hi
  exact hf p v

theorem charged_source (c : Cluster) (table : TableReference) :
    c.Charged 0 (c.start (.createFromSource table)) := by
  refine .answering fun next hn => ?_
  obtain ⟨-, -, hn⟩ := Except.bind_eq_ok_iff.1 hn
  obtain ⟨-, -, hn⟩ := Except.bind_eq_ok_iff.1 hn
  obtain ⟨resolved, -, hn⟩ := Except.bind_eq_ok_iff.1 hn
  obtain ⟨slices, -, hn⟩ := Except.bind_eq_ok_iff.1 hn
  cases slices with
  | nil => cases hn
  | cons first rest =>
    have hids : ((c.callEach (fun p s => ⟨p, .ask none (.createFromSource s)⟩) rest).filterMap
        Call.issuedId?).Sublist (freshIds c.tokens.issued (c.tokens.issued + 0)) := by
      rw [unissued_callEach fun _ _ => rfl]
      exact List.nil_sublist _
    cases hown : c.own.createFromSource c.files first with
    | ok own =>
      simp only [hown] at hn
      cases hn
      exact .waiting c own 0 _ hids
    | error x =>
      simp only [hown] at hn
      cases hn
      exact .waiting c c.own 0 _ hids

theorem charged_drop (c : Cluster) (name : String) : c.Charged 0 (c.start (.drop name)) := by
  refine .answering fun next hn => ?_
  obtain ⟨-, -, hn⟩ := Except.bind_eq_ok_iff.1 hn
  split at hn
  · cases hn
    refine .waiting c c.own 0 _ ?_
    rw [unissued_map fun _ => rfl]
    exact List.nil_sublist _
  · cases hn

/-- What an operation that is not a query takes as it begins. -/
theorem charged_start (hsize : c.members.size = c.workers.length + 1) (hop : op.isQuery = false) :
    c.Charged (c.charge c.workers.length op) (c.start op) := by
  cases op with
  | create name batch => exact charged_create hsize name batch
  | createFromSource table => exact c.charged_source table
  | drop name => exact c.charged_drop name
  | query sql => cases hop

end Cluster

namespace Live

variable {l : Live}

theorem start_eq (l : Live) (hop : op.isQuery = false) : l.start op =
    match l.cluster.start op with
    | (cluster, .answered a) =>
      { l with cluster, begun := l.begun + 1, answers := l.answers ++ [(l.begun, a)] }
    | (cluster, .waiting calls goal) =>
      { l with
        cluster
        begun := l.begun + 1
        running := l.running ++ [(l.begun, .fresh calls l.now (.conclude goal))] } := by
  rcases hs : l.cluster.start op with ⟨cluster, _ | _⟩ <;>
  · cases op with
    | query sql => cases hop
    | _ => simp only [start, hs]

theorem spends_plain (hn : l.Numbered)
    (hsize : l.cluster.members.size = l.cluster.workers.length + 1) (hop : op.isQuery = false) :
    l.Spends (l.start op) [] (l.cluster.charge l.cluster.workers.length op) := by
  have hcharged := Cluster.charged_start hsize hop
  rw [start_eq l hop]
  generalize l.cluster.start op = next at hcharged ⊢
  obtain ⟨cluster, begun⟩ := next
  obtain ⟨⟨own, rfl⟩, hids⟩ := hcharged
  cases begun with
  | answered a => exact spends_answered hn own _ _
  | waiting calls goal => exact spends_waiting hn own _ (hids calls goal rfl) goal

theorem links_draft (l : Live) (sql : String) : (l.draft sql).links = l.links := by
  rw [draft]
  cases l.cluster.draft sql with
  | mk cluster drafted => cases drafted <;> rfl

theorem links_issues (l : Live) (o k : Nat) :
    (l.steps (List.replicate k (.issue o))).links = l.links := by
  induction k generalizing l with
  | zero => rfl
  | succ k ih => exact (ih (l.issue o)).trans (l.links_issue o)

theorem start_query (l : Live) (sql : String) : l.start (.query sql) =
    (l.draft sql).steps (List.replicate (l.cluster.workers.length + 1) (.issue l.begun)) :=
  (l.steps_parts (.start (.query sql))).symm

theorem links_start (l : Live) (op : Operation) : (l.start op).links = l.links := by
  cases hop : op.isQuery with
  | false =>
    rw [start_eq l hop]
    split <;> rfl
  | true =>
    cases op with
    | query sql =>
      rw [start_query]
      exact (links_issues ..).trans (l.links_draft sql)
    | _ => cases hop

theorem spends_start (hn : l.Numbered)
    (hsize : l.cluster.members.size = l.cluster.workers.length + 1) (op : Operation) :
    l.Spends (l.start op) [] (l.cluster.charge l.cluster.workers.length op) := by
  cases hop : op.isQuery with
  | false => exact spends_plain hn hsize hop
  | true =>
    cases op with
    | query sql =>
      have hdraft := spends_draft hn sql
      rw [start_query]
      exact hdraft.trans (spends_issues hdraft.numbered l.begun (l.cluster.workers.length + 1))
    | _ => cases hop

/-- An event costs what the operation takes that it begins, and each id that it sends out was at
hand before. -/
theorem spends_step (hn : l.Numbered)
    (hsize : l.cluster.members.size = l.cluster.workers.length + 1) (e : Event) :
    l.Spends (l.step e) ((l.queued (l.step e)).filterMap Request.issuedId?)
      (l.charge l.cluster.workers.length e) := by
  have hquiet : l.Unqueued (l.step e) →
      l.Spends (l.step e) [] (l.charge l.cluster.workers.length e) →
      l.Spends (l.step e) ((l.queued (l.step e)).filterMap Request.issuedId?)
        (l.charge l.cluster.workers.length e) := by
    intro hq h
    rw [hq.queued]
    exact h
  have hwork : l.Rests (l.step e) → e.isWork = true → e.begins? = none → (∀ o, e ≠ .conclude o) →
      l.Spends (l.step e) ((l.queued (l.step e)).filterMap Request.issuedId?)
        (l.charge l.cluster.workers.length e) := by
    intro hr he hb hc
    refine hquiet hr.unqueued ?_
    rw [charge, hb]
    exact .goes hn hr.tokens (goes hn.running he hc)
  cases e with
  | start op => exact hquiet (.of_links (l.links_start op)) (spends_start hn hsize op)
  | draft sql => exact hquiet (.of_links (l.links_draft sql)) (spends_draft hn sql)
  | issue o => exact hquiet (.of_links (l.links_issue o)) (spends_issue hn o)
  | send o i => exact spends_send hn o i
  | expire o i =>
    have hr := l.rests_expire o i
    exact hquiet hr.unqueued (.goes hn hr.tokens (l.goes_expire o i))
  | conclude o => exact hquiet (l.rests_conclude o).unqueued (spends_conclude hn o)
  | stop => exact hquiet l.rests_stop.unqueued (spends_stop hn)
  | prepare o i => exact hwork (l.rests_prepare o i) rfl rfl fun _ => Event.noConfusion
  | own o i => exact hwork (l.rests_own o i) rfl rfl fun _ => Event.noConfusion
  | serve w => exact hwork (l.rests_serve w) rfl rfl fun _ => Event.noConfusion
  | deliver w => exact hwork (l.rests_deliver w) rfl rfl fun _ => Event.noConfusion
  | receive w => exact hwork (l.rests_receive w) rfl rfl fun _ => Event.noConfusion
  | pull o i => exact hwork (l.rests_pull o i) rfl rfl fun _ => Event.noConfusion
  | close w => exact hwork (l.rests_close w) rfl rfl fun _ => Event.noConfusion
  | stray k => exact hwork (l.rests_stray k) rfl rfl fun _ => Event.noConfusion
  | tick ms => exact hwork (.of_eq rfl rfl) rfl rfl fun _ => Event.noConfusion

theorem spends_steps (hn : l.Numbered) (hsize : l.cluster.members.size = n + 1)
    (hlen : l.cluster.workers.length = n) (events : List Event) :
    l.Spends (l.steps events) ((l.sent events).filterMap Request.issuedId?)
      (l.charges n events) := by
  induction events generalizing l with
  | nil => exact .refl hn
  | cons e events ih =>
    have hstep := spends_step hn (by rw [hsize, hlen]) e
    rw [hlen] at hstep
    have hrest := ih hstep.numbered (by rw [hstep.members, hsize]) (hstep.size.trans hlen)
    rw [sent, List.filterMap_append]
    exact hstep.trans hrest

end Live

end ShardQuery
