import ShardQuery.Proofs.Cluster.Advance

namespace ShardQuery

/-- The calls of an operation that begins. -/
structure Opening (ids : List ParticipantId) (op : Operation) (calls : List Call) (goal : Goal) :
    Prop where
  serves : goal.Serves op
  called : calls.map Call.participant = op.called ids
  rows : ∀ call ∈ calls, call.task.bringsRows = op.isQuery
  asks : ∀ call ∈ calls, ∀ ahead r, call.task = .ask ahead r → call.participant ∈ ids

/-- An operation that is not a query, once it has begun. -/
inductive Cluster.Opens (c : Cluster) (op : Operation) : Cluster × Begun → Prop
  | refused (own : Engine) (tokens : TokenIssuer) (e : ClusterError) :
      c.Opens op ({ c with own, tokens }, .answered (.error e))
  | waits (own : Engine) (tokens : TokenIssuer) (h : Opening c.workerIds op calls goal) :
      c.Opens op ({ c with own, tokens }, .waiting calls goal)

variable {ids : List ParticipantId} {op : Operation} {parts : List (ParticipantId × Answer)}
  {calls : List Call} {goal : Goal}

theorem fits_fresh (ha : ∀ call ∈ calls, ∀ ahead r, call.task = .ask ahead r →
    call.participant ∈ ids) (now : Nat) (aim : Aim) :
    ∀ lc ∈ (Running.fresh calls now aim).calls, lc.Fits ids := by
  intro lc hlc
  obtain ⟨call, hcall, rfl⟩ := List.mem_map.1 hlc
  exact ⟨fun _ _ => .inl rfl, ha call hcall⟩

theorem Opening.going (h : Opening ids op calls goal) (now : Nat) :
    Going ids op goal.ownPart (.fresh calls now (.conclude goal)) where
  fits := fits_fresh h.asks now _
  told := by
    intro a ha
    cases ha
  doing := by
    intro goal' hgoal
    cases hgoal
    have hcalls : (Running.fresh calls now (.conclude goal)).calls.map LiveCall.call = calls := by
      rw [Running.fresh, List.map_map]
      exact List.map_id calls
    constructor
    · exact h.serves
    · rw [hcalls]
      exact h.called
    · rw [hcalls]
      exact h.rows
    · intro hq x hx
      have hserves := h.serves
      cases op with
      | query sql =>
        cases goal with
        | queried issued => cases hx
        | _ => cases hserves
      | _ => cases hq
    · simp [Running.fresh]
    · simp [Running.fresh]

theorem Told.going {a : Except ClusterError Answer} (h : Told ids op parts a)
    (ha : ∀ call ∈ calls, ∀ ahead r, call.task = .ask ahead r → call.participant ∈ ids)
    (now : Nat) : Going ids op parts (.fresh calls now (.give a)) where
  fits := fits_fresh ha now _
  doing := by
    intro goal hgoal
    cases hgoal
  told := by
    intro b hb
    cases hb
    exact h

namespace Cluster

variable {c : Cluster}

theorem map_zipWith_left {f : α → β → γ} {g : γ → α} (hf : ∀ a b, g (f a b) = a) {as : List α}
    {bs : List β} (hn : as.length ≤ bs.length) : (List.zipWith f as bs).map g = as := by
  rw [List.map_zipWith]
  simp only [hf]
  induction as generalizing bs with
  | nil => rfl
  | cons a as ih =>
    cases bs with
    | nil => cases hn
    | cons b bs => rw [List.zipWith_cons_cons, ih (Nat.le_of_succ_le_succ hn)]

theorem length_workerIds (c : Cluster) : c.workerIds.length = c.workers.length := by
  rw [workerIds, List.length_map, List.length_range]

/-- Requests to all workers, none of which is for rows. -/
theorem opening_callEach (hs : goal.Serves op) (hop : op.isQuery = false) (values : List α)
    (hn : c.workers.length ≤ values.length) {f : ParticipantId → α → Call}
    (hf : ∀ p v, ∃ ahead r, f p v = ⟨p, .ask ahead r⟩ ∧ r.pulls = false) :
    Opening c.workerIds op (c.callEach f values) goal := by
  have hmem : ∀ call ∈ c.callEach f values, ∃ p ∈ c.workerIds, ∃ v, call = f p v := by
    intro call hc
    obtain ⟨i, hi⟩ := List.getElem?_of_mem hc
    obtain ⟨p, v, hp, -, rfl⟩ := List.getElem?_zipWith_eq_some.1 hi
    exact ⟨p, List.mem_of_getElem? hp, v, rfl⟩
  constructor
  · exact hs
  · rw [Operation.called, hop]
    apply map_zipWith_left
    · intro p v
      obtain ⟨ahead, r, hfv, -⟩ := hf p v
      rw [hfv]
    · rw [length_workerIds]
      exact hn
  · intro call hc
    obtain ⟨p, -, v, rfl⟩ := hmem call hc
    obtain ⟨ahead, r, hfv, hr⟩ := hf p v
    rw [hfv, hop]
    exact hr
  · intro call hc _ _ _
    obtain ⟨p, hp, v, rfl⟩ := hmem call hc
    obtain ⟨ahead, r, hfv, -⟩ := hf p v
    rw [hfv]
    exact hp

theorem Opens.answering {r : Except ClusterError (Cluster × Begun)}
    (h : ∀ next, r = .ok next → c.Opens op next) : c.Opens op (c.answering r) := by
  cases r with
  | ok next => exact h next rfl
  | error e => exact .refused c.own c.tokens e

theorem opens_create (hsize : c.members.size = c.workers.length + 1) (name : String)
    (batch : Batch) : c.Opens (.create name batch) (c.start (.create name batch)) := by
  apply Opens.answering
  intro next hn
  obtain ⟨-, -, hn⟩ := Except.bind_eq_ok_iff.1 hn
  obtain ⟨parts, hparts, hn⟩ := Except.bind_eq_ok_iff.1 hn
  have hlen : parts.length = c.workers.length + 1 := by
    obtain ⟨parts', hsplit, hlen, -⟩ := batch.split_eq_ok (Nat.succ_pos c.workers.length)
    rw [hsize, hsplit] at hparts
    cases hparts
    exact hlen
  have hopening : Opening c.workerIds (.create name batch) (c.callEach
      (fun p (s : Share) => ⟨p, .ask (some s) (.createTable name s.id)⟩)
      (List.zipWith (fun t b => Share.mk t t.messageId b) c.issue.1 parts.tail))
      (.created name) := by
    have hserves : (Goal.created name).Serves (.create name batch) := trivial
    apply opening_callEach hserves rfl
    · rw [List.length_zipWith, List.length_tail, hlen, issue_eq, List.length_map,
        List.length_range]
      exact Nat.le_of_eq (Nat.min_self _).symm
    · intro p s
      exact ⟨_, _, rfl, rfl⟩
  cases hown : c.own.create name (parts.headD (.empty batch.schema)) with
  | ok own =>
    simp only [issue_eq, hown] at hn
    cases hn
    exact .waits own _ hopening
  | error x =>
    simp only [issue_eq, hown] at hn
    cases hn
    exact .refused c.own _ _

theorem opens_createFromSource (hsize : c.members.size = c.workers.length + 1)
    (table : TableReference) :
    c.Opens (.createFromSource table) (c.start (.createFromSource table)) := by
  apply Opens.answering
  intro next hn
  obtain ⟨-, -, hn⟩ := Except.bind_eq_ok_iff.1 hn
  obtain ⟨-, -, hn⟩ := Except.bind_eq_ok_iff.1 hn
  obtain ⟨resolved, -, hn⟩ := Except.bind_eq_ok_iff.1 hn
  obtain ⟨slices, hslices, hn⟩ := Except.bind_eq_ok_iff.1 hn
  rw [lift_eq_ok_iff, hsize] at hslices
  have hlen := Planner.length_planTable (Nat.succ_pos _) hslices
  cases slices with
  | nil => cases hlen
  | cons first rest =>
    have hopening : ∀ result, Opening c.workerIds (.createFromSource table)
        (c.callEach (fun p s => ⟨p, .ask none (.createFromSource s)⟩) rest)
        (.loaded resolved.name result) := by
      intro result
      have hserves : (Goal.loaded resolved.name result).Serves (.createFromSource table) :=
        trivial
      apply opening_callEach hserves rfl
      · exact Nat.le_of_eq (Nat.succ.inj hlen).symm
      · intro p s
        exact ⟨_, _, rfl, rfl⟩
    cases hown : c.own.createFromSource c.files first with
    | ok own =>
      simp only [hown] at hn
      cases hn
      exact .waits own c.tokens (hopening _)
    | error x =>
      simp only [hown] at hn
      cases hn
      exact .waits c.own c.tokens (hopening _)

theorem opens_drop (c : Cluster) (name : String) : c.Opens (.drop name) (c.start (.drop name)) := by
  apply Opens.answering
  intro next hn
  obtain ⟨-, -, hn⟩ := Except.bind_eq_ok_iff.1 hn
  split at hn
  · cases hn
    have hserves : (Goal.dropped name).Serves (.drop name) := trivial
    have hopening := opening_callEach (c := c) hserves rfl c.workerIds
      (Nat.le_of_eq c.length_workerIds.symm) (f := fun p _ => ⟨p, .ask none (.dropTable name)⟩)
      fun p v => ⟨_, _, rfl, rfl⟩
    rw [callEach, List.zipWith_self] at hopening
    exact .waits c.own c.tokens hopening
  · cases hn

theorem opens_start (hsize : c.members.size = c.workers.length + 1) (hop : op.isQuery = false) :
    c.Opens op (c.start op) := by
  cases op with
  | query sql => cases hop
  | create name batch => exact opens_create hsize name batch
  | createFromSource table => exact opens_createFromSource hsize table
  | drop name => exact opens_drop c name

theorem opening_dispatch {d : Draft} (hd : c.workers.length ≤ d.tokens.length) (sql : String) :
    Opening c.workerIds (.query sql) (c.dispatch d).1 (c.dispatch d).2 := by
  have hmem : ∀ call ∈ (c.dispatch d).1, call = ⟨.coordinator, .own d.prepared.run⟩ ∨
      ∃ p ∈ c.workerIds, ∃ t : CorrelationToken,
        call = ⟨p, .ask none (.runQuery t t.messageId d.sql)⟩ := by
    intro call hc
    rcases List.mem_cons.1 hc with rfl | hc
    · exact .inl rfl
    · obtain ⟨i, hi⟩ := List.getElem?_of_mem hc
      obtain ⟨p, t, hp, -, rfl⟩ := List.getElem?_zipWith_eq_some.1 hi
      exact .inr ⟨p, List.mem_of_getElem? hp, t, rfl⟩
  constructor
  · trivial
  · show _ :: List.map _ (List.zipWith _ _ _) = _ :: _
    rw [map_zipWith_left (fun _ _ => rfl)]
    rw [length_workerIds]
    exact hd
  · intro call hc
    rcases hmem call hc with rfl | ⟨p, -, t, rfl⟩ <;> rfl
  · intro call hc ahead r hr
    rcases hmem call hc with rfl | ⟨p, hp, t, rfl⟩
    · cases hr
    · exact hp

theorem discardLate_eq_withNet (c : Cluster) (issued : List (ParticipantId × MessageId))
    (failures : List Failure) : ∃ net, c.discardLate issued failures = { c with net } := by
  rw [discardLate]
  induction failures generalizing c with
  | nil => exact ⟨c.net, rfl⟩
  | cons f fs ih =>
    rw [List.foldl_cons]
    split
    · split
      · next net _ =>
        obtain ⟨net', h⟩ := ih { c with net }
        exact ⟨net', h⟩
      · exact ih c
    · exact ih c

theorem rollBack_spec (c : Cluster) (name : String) (created : List ParticipantId) :
    (∃ own, (c.rollBack name created).1 = { c with own }) ∧
      ∀ call ∈ (c.rollBack name created).2, call.participant ∈ c.workerIds := by
  refine ⟨⟨_, rfl⟩, ?_⟩
  intro call hc
  obtain ⟨p, hp, rfl⟩ := List.mem_map.1 hc
  exact List.mem_of_mem_filter hp

/-- What is left of a cluster as an operation is concluded, and who is asked to undo it. -/
theorem conclude_spec (c : Cluster) (outcome : Outcome Answer) (hs : goal.Serves op) :
    (∃ own net, (c.conclude outcome goal).1 = { c with own, net }) ∧
      ∀ call ∈ (c.conclude outcome goal).2.undo, call.participant ∈ c.workerIds := by
  have hkeep : ∀ answer : Except ClusterError Answer, (∃ own net, c = { c with own, net }) ∧
      ∀ call ∈ (Concluded.mk [] answer).undo, call.participant ∈ c.workerIds := by
    intro answer
    exact ⟨⟨c.own, c.net, rfl⟩, fun call hc => by cases hc⟩
  have hback : ∀ name created, (∃ own net, (c.rollBack name created).1 = { c with own, net }) ∧
      ∀ call ∈ (c.rollBack name created).2, call.participant ∈ c.workerIds := by
    intro name created
    obtain ⟨⟨own, hown⟩, hundo⟩ := c.rollBack_spec name created
    exact ⟨⟨own, c.net, hown⟩, hundo⟩
  cases goal with
  | launched => cases hs
  | created name =>
    simp only [conclude]
    split
    · exact hkeep _
    · exact hback name _
  | loaded name result =>
    simp only [conclude]
    split
    · exact hkeep _
    · exact hback name _
  | dropped name =>
    simp only [conclude]
    split
    · next own _ => exact ⟨⟨own, c.net, rfl⟩, fun call hc => by cases hc⟩
    · exact hkeep _
  | queried issued =>
    obtain ⟨net, hnet⟩ := c.discardLate_eq_withNet issued outcome.failures
    exact ⟨⟨c.own, net, hnet⟩, fun call hc => by cases hc⟩

end Cluster

end ShardQuery
