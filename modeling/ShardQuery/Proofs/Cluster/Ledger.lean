import ShardQuery.Proofs.Cluster.Custody
import Mathlib.Data.List.Perm.Subperm

namespace ShardQuery

open CacheRequest

/-- The ids of the results that a worker has still to deliver. -/
def Link.ids (k : Link) : List MessageId :=
  k.job.toList.map Job.id ++ k.inbox.filterMap (·.2.messageId?)

/-- The numbers of the messages that are on their way to a worker, at it, or on their way back. -/
def Link.numbers (k : Link) : List Nat :=
  k.job.toList.map Job.seq ++ (k.inbox.map Prod.fst ++ k.outbox.map Prod.fst)

/-- Each result that a worker has still to deliver goes under the id of its token. -/
structure Link.Signed (k : Link) : Prop where
  inbox : ∀ m ∈ k.inbox, ∀ t id sql, m.2 = .runQuery t id sql → id = t.messageId
  job : ∀ j, k.job = some j → j.id = j.token.messageId

structure Ledger where
  links : List Link
  /-- What the coordinator's cache has served. -/
  requests : List CacheRequest

namespace Ledger

/-- The ids of all results, at the workers or written. -/
def ids (f : Ledger) : List MessageId := f.links.flatMap Link.ids ++ written f.requests

/-- A result that there is, or that is to come, was pulled or given up. -/
def Settled (f : Ledger) (id : MessageId) : Prop :=
  id ∈ f.ids → .pull id ∈ f.requests ∨ .discard id ∈ f.requests

/-- What is under a number on a link is for the query of a token. -/
structure Awaits (f : Ledger) (k : Link) (seq : Nat) (t : CorrelationToken) : Prop where
  inbox : ∀ m ∈ k.inbox, m.1 = seq → ∃ sql, m.2 = .runQuery t t.messageId sql
  job : ∀ j, k.job = some j → j.seq = seq → j.token = t ∧ j.id = t.messageId
  ran : ∀ m ∈ k.outbox, m.1 = seq → m.2 = .queryRan t t.messageId →
    t.messageId ∈ written f.requests
  refused : ∀ m ∈ k.outbox, m.1 = seq → m.2 ≠ .queryRan t t.messageId → t.messageId ∉ f.ids

/-- How far the query of a token got at a worker, by the stage of its call. -/
def Stands (f : Ledger) (ended : List (ParticipantId × Except FailureKind Answer)) (w : Nat)
    (t : CorrelationToken) : Stage → Prop
  | .fresh => t.messageId ∉ f.ids
  | .numbered _ => t.messageId ∉ f.ids
  | .asked seq => ∀ k, f.links[w]? = some k → f.Awaits k seq t
  | .pulling => t.messageId ∈ written f.requests
  | .ended => (∃ ms, (⟨w + 1⟩, .error (.timedOut ms)) ∈ ended) ∨ f.Settled t.messageId

/-- The number that a call has is one that its channel gave out, unused before it is sent. -/
def Holds (f : Ledger) (p : ParticipantId) : Stage → Prop
  | .numbered seq => ∃ k, f.links[Live.linkOf p]? = some k ∧ seq ≤ k.channel.issued ∧
    seq ∉ k.numbers
  | .asked seq => ∃ k, f.links[Live.linkOf p]? = some k ∧ seq ≤ k.channel.issued
  | _ => True

/-- No result is there twice, nothing is pulled before it is written, and all numbers were given. -/
structure Ordered (f : Ledger) : Prop where
  once : f.ids.Nodup
  inOrder : InOrder f.requests
  signed : ∀ (w : Nat) k, f.links[w]? = some k → k.Signed
  puts : ∀ t id batch, .put t id batch ∈ f.requests → id = t.messageId
  worker : ∀ (w : Nat) k, f.links[w]? = some k → k.channel.worker = ⟨w + 1⟩
  issued : ∀ (w : Nat) k, f.links[w]? = some k → ∀ seq ∈ k.numbers, seq ≤ k.channel.issued

/-- No new result is asked for, and no new message is sent. -/
structure Steps (f g : Ledger) : Prop where
  ordered : g.Ordered
  length : g.links.length = f.links.length
  ids : ∀ id ∈ g.ids, id ∈ f.ids
  requests : ∀ r ∈ f.requests, r ∈ g.requests
  link : ∀ (w : Nat) k', g.links[w]? = some k' → ∃ k, f.links[w]? = some k ∧
    k.channel.issued ≤ k'.channel.issued ∧ (∀ seq ∈ k'.numbers, seq ∈ k.numbers) ∧
    ∀ seq t, f.Awaits k seq t → g.Awaits k' seq t

variable {f g : Ledger} {t : CorrelationToken} {w : Nat} {k k' : Link} {id : MessageId}
  {rs new : List CacheRequest}

theorem mem_ids_of_carried (hk : f.links[w]? = some k) (hid : id ∈ k.ids) : id ∈ f.ids :=
  List.mem_append_left _ (List.mem_flatMap.2 ⟨k, List.mem_of_getElem? hk, hid⟩)

theorem Ordered.notMem_written (hf : f.Ordered) (hk : f.links[w]? = some k) (hid : id ∈ k.ids) :
    id ∉ written f.requests := fun hm =>
  (List.nodup_append.1 hf.once).2.2 id
    (List.mem_flatMap.2 ⟨k, List.mem_of_getElem? hk, hid⟩) id hm rfl

theorem mem_ids_of_written (hid : id ∈ written f.requests) : id ∈ f.ids :=
  List.mem_append_right _ hid

theorem written_mono (h : ∀ r ∈ rs, r ∈ new) (hid : id ∈ written rs) : id ∈ written new := by
  obtain ⟨token, batch, hr⟩ := mem_written_iff.1 hid
  exact mem_written_iff.2 ⟨token, batch, h _ hr⟩

theorem Settled.mono (h : f.Settled id) (hids : id ∈ g.ids → id ∈ f.ids)
    (hr : ∀ r ∈ f.requests, r ∈ g.requests) : g.Settled id :=
  fun hid => (h (hids hid)).imp (hr _) (hr _)

theorem settled_of_notMem (h : id ∉ f.ids) : f.Settled id := fun hid => absurd hid h

theorem Awaits.mono (h : f.Awaits k seq t) (hids : t.messageId ∈ g.ids → t.messageId ∈ f.ids)
    (hr : ∀ r ∈ f.requests, r ∈ g.requests) : g.Awaits k seq t where
  inbox := h.inbox
  job := h.job
  ran m hm hs he := written_mono hr (h.ran m hm hs he)
  refused m hm hs he hid := h.refused m hm hs he (hids hid)

/-- There is nothing yet under a number that was not sent. -/
theorem awaits_of_notMem (h : seq ∉ k.numbers) : f.Awaits k seq t where
  inbox m hm hs := by
    refine absurd (List.mem_append_right _ (List.mem_append_left _ ?_)) h
    exact List.mem_map.2 ⟨m, hm, hs⟩
  job j hj hs := by
    refine absurd (List.mem_append_left _ ?_) h
    exact List.mem_map.2 ⟨j, by rw [hj]; exact List.mem_cons_self .., hs⟩
  ran m hm hs := by
    refine absurd (List.mem_append_right _ (List.mem_append_right _ ?_)) h
    exact List.mem_map.2 ⟨m, hm, hs⟩
  refused m hm hs := by
    refine absurd (List.mem_append_right _ (List.mem_append_right _ ?_)) h
    exact List.mem_map.2 ⟨m, hm, hs⟩

namespace Steps

theorem stands (h : f.Steps g) {s : Stage} (hs : f.Stands ended w t s) :
    g.Stands ended w t s := by
  cases s with
  | fresh => exact fun hid => hs (h.ids _ hid)
  | numbered => exact fun hid => hs (h.ids _ hid)
  | asked seq =>
    intro k' hk'
    obtain ⟨k, hk, -, -, hawaits⟩ := h.link w k' hk'
    exact hawaits seq t (hs k hk)
  | pulling => exact written_mono h.requests hs
  | ended => exact hs.imp_right fun hset => hset.mono (h.ids _) h.requests

theorem holds (h : f.Steps g) {s : Stage} (hs : f.Holds p s) : g.Holds p s := by
  have hlink : ∀ k, f.links[Live.linkOf p]? = some k → ∃ k', g.links[Live.linkOf p]? = some k' ∧
      k.channel.issued ≤ k'.channel.issued ∧ ∀ seq ∈ k'.numbers, seq ∈ k.numbers := by
    intro k hk
    have hlt := (List.getElem?_eq_some_iff.1 hk).1
    rw [← h.length] at hlt
    obtain ⟨k₀, hk₀, hle, hnumbers, -⟩ := h.link _ _ (List.getElem?_eq_getElem hlt)
    cases hk.symm.trans hk₀
    exact ⟨_, List.getElem?_eq_getElem hlt, hle, hnumbers⟩
  cases s with
  | numbered seq =>
    obtain ⟨k, hk, hseq, hno⟩ := hs
    obtain ⟨k', hk', hle, hnumbers⟩ := hlink k hk
    exact ⟨k', hk', Nat.le_trans hseq hle, fun hm => hno (hnumbers seq hm)⟩
  | asked seq =>
    obtain ⟨k, hk, hseq⟩ := hs
    obtain ⟨k', hk', hle, -⟩ := hlink k hk
    exact ⟨k', hk', Nat.le_trans hseq hle⟩
  | _ => trivial

end Steps

/-- One link is another from now on, and the cache has served more requests. -/
def after (f : Ledger) (w : Nat) (k : Link) (new : List CacheRequest) : Ledger :=
  ⟨f.links.set w k, f.requests ++ new⟩

theorem getElem?_after (hv : (f.after w k' new).links[v]? = some j) :
    (v = w ∧ j = k') ∨ (v ≠ w ∧ f.links[v]? = some j) := by
  rw [after, List.getElem?_set] at hv
  split at hv
  · next he =>
    split at hv
    · cases hv
      exact .inl ⟨he.symm, rfl⟩
    · cases hv
  · next hne => exact .inr ⟨fun he => hne he.symm, hv⟩

theorem ids_after (hk : f.links[w]? = some k) (k' : Link) (new : List CacheRequest) :
    ∃ rest, f.ids.Perm (k.ids ++ rest) ∧
      (f.after w k' new).ids.Perm (k'.ids ++ written new ++ rest) := by
  obtain ⟨hlt, hget⟩ := List.getElem?_eq_some_iff.1 hk
  obtain ⟨l₁, l₂, hl, -, hset⟩ : ∃ l₁ l₂, f.links = l₁ ++ f.links[w] :: l₂ ∧ l₁.length = w ∧
      f.links.set w k' = l₁ ++ k' :: l₂ := List.exists_of_set hlt
  rw [hget] at hl
  refine ⟨l₁.flatMap Link.ids ++ l₂.flatMap Link.ids ++ written f.requests, ?_, ?_⟩
  · refine List.perm_iff_count.2 fun i => ?_
    rw [ids, hl]
    simp only [List.flatMap_append, List.flatMap_cons, List.count_append]
    omega
  · refine List.perm_iff_count.2 fun i => ?_
    rw [ids, after, hset]
    simp only [List.flatMap_append, List.flatMap_cons, List.count_append, written_append]
    omega

theorem Ordered.steps_after (hf : f.Ordered) (hk : f.links[w]? = some k)
    (hids : (k'.ids ++ written new).Subperm k.ids)
    (hnew : ∀ id, .pull id ∈ new → id ∈ written f.requests)
    (hsigned : k.Signed → k'.Signed)
    (hputs : k.Signed → ∀ t id batch, .put t id batch ∈ new → id = t.messageId)
    (hworker : k'.channel.worker = k.channel.worker)
    (hissued : k.channel.issued ≤ k'.channel.issued)
    (hnumbers : ∀ seq ∈ k'.numbers, seq ∈ k.numbers)
    (hawaits : ∀ seq t, (f.after w k' new).Awaits k seq t → (f.after w k' new).Awaits k' seq t) :
    f.Steps (f.after w k' new) := by
  obtain ⟨rest, hbefore, hafter⟩ := ids_after hk k' new
  have hsub : (f.after w k' new).ids.Subperm f.ids :=
    hafter.subperm.trans (((List.subperm_append_right rest).2 hids).trans hbefore.symm.subperm)
  have hrequests : ∀ r ∈ f.requests, r ∈ (f.after w k' new).requests := fun r hr =>
    List.mem_append_left _ hr
  refine ⟨⟨?_, hf.inOrder.append hnew, ?_, ?_, ?_, ?_⟩, List.length_set, hsub.subset, hrequests, ?_⟩
  · obtain ⟨l, hl, hs⟩ := hsub
    exact hl.nodup_iff.1 (hf.once.sublist hs)
  · intro v j hv
    rcases getElem?_after hv with ⟨rfl, rfl⟩ | ⟨-, hv⟩
    · exact hsigned (hf.signed v k hk)
    · exact hf.signed v j hv
  · intro t id batch hm
    rcases List.mem_append.1 hm with hm | hm
    · exact hf.puts t id batch hm
    · exact hputs (hf.signed w k hk) t id batch hm
  · intro v j hv
    rcases getElem?_after hv with ⟨rfl, rfl⟩ | ⟨-, hv⟩
    · rw [hworker]
      exact hf.worker v k hk
    · exact hf.worker v j hv
  · intro v j hv seq hm
    rcases getElem?_after hv with ⟨rfl, rfl⟩ | ⟨-, hv⟩
    · exact Nat.le_trans (hf.issued v k hk seq (hnumbers seq hm)) hissued
    · exact hf.issued v j hv seq hm
  · have hmono : ∀ j seq t, f.Awaits j seq t → (f.after w k' new).Awaits j seq t :=
      fun j seq t ha => ha.mono (fun hid => hsub.subset hid) hrequests
    intro v j hv
    rcases getElem?_after hv with ⟨rfl, rfl⟩ | ⟨-, hv⟩
    · exact ⟨k, hk, hissued, hnumbers, fun seq t ha => hawaits seq t (hmono k seq t ha)⟩
    · exact ⟨j, hv, Nat.le_refl _, fun _ hm => hm, hmono j⟩

theorem Ordered.notMem_ids_after (hf : f.Ordered) (hk : f.links[w]? = some k)
    (hids : k.ids = id :: k'.ids) : id ∉ (f.after w k' []).ids := by
  obtain ⟨rest, hbefore, hafter⟩ := ids_after hk k' []
  have hn := hbefore.nodup_iff.1 hf.once
  rw [hids] at hn
  intro hm
  have hm' := hafter.subset hm
  rw [show k'.ids ++ written [] = k'.ids from List.append_nil _] at hm'
  exact (List.nodup_cons.1 hn).1 hm'

section Workers

variable {channel : Channel} {inbox : List (Nat × Request)} {outbox : List (Nat × Reply)}
  {job : Option Job} {reply : Reply} {r : Request}

/-- A worker has the result of a query that it took up. -/
theorem Ordered.run (hf : f.Ordered)
    (hk : f.links[w]? = some ⟨channel, (seq, .runQuery token id sql) :: inbox, none, outbox⟩)
    (batch : Batch) (since : Nat) :
    f.Steps (f.after w ⟨channel, inbox, some ⟨seq, token, id, batch, since⟩, outbox⟩ []) := by
  refine hf.steps_after hk ?_ (fun _ h => by cases h) (fun hs => ⟨?_, ?_⟩)
    (fun _ _ _ _ h => by cases h) rfl (Nat.le_refl _) (fun _ hm => hm) ?_
  · rw [show written [] = [] from rfl, List.append_nil]
    exact List.Subperm.refl _
  · exact fun m hm => hs.inbox m (List.mem_cons_of_mem _ hm)
  · intro j hj
    cases hj
    exact hs.inbox _ (List.mem_cons_self ..) token id sql rfl
  · intro s t ha
    refine ⟨fun m hm => ha.inbox m (List.mem_cons_of_mem _ hm), fun j hj hs => ?_, ha.ran,
      ha.refused⟩
    cases hj
    obtain ⟨sql', he⟩ := ha.inbox _ (List.mem_cons_self ..) hs
    cases he
    exact ⟨rfl, rfl⟩

/-- A worker has refused a request, or has done what is not a query. -/
theorem Ordered.answer (hf : f.Ordered)
    (hk : f.links[w]? = some ⟨channel, (seq, r) :: inbox, none, outbox⟩)
    (hreply : r.messageId? = none ∨ ∃ x, reply = Worker.refusal x) :
    f.Steps (f.after w ⟨channel, inbox, none, outbox ++ [(seq, reply)]⟩ []) := by
  have hids : ∀ id, r.messageId? = some id →
      Link.ids ⟨channel, (seq, r) :: inbox, none, outbox⟩ =
        id :: Link.ids ⟨channel, inbox, none, outbox ++ [(seq, reply)]⟩ := by
    intro id hid
    rw [Link.ids, List.filterMap_cons, hid]
    rfl
  refine hf.steps_after hk ?_ (fun _ h => by cases h)
    (fun hs => ⟨fun m hm => hs.inbox m (List.mem_cons_of_mem _ hm), fun j hj => by cases hj⟩)
    (fun _ _ _ _ h => by cases h) rfl (Nat.le_refl _) (fun s hm => ?_) ?_
  · rw [show written [] = [] from rfl, List.append_nil]
    refine List.Sublist.subperm ?_
    exact (List.sublist_cons_self ..).filterMap _
  · simp only [Link.numbers, List.map_append, List.map_cons, List.map_nil] at hm ⊢
    grind
  · intro s t ha
    refine ⟨fun m hm => ha.inbox m (List.mem_cons_of_mem _ hm), fun j hj => (by cases hj), ?_, ?_⟩
    · intro m hm hs he
      rcases List.mem_append.1 hm with hm | hm
      · exact ha.ran m hm hs he
      · cases List.mem_singleton.1 hm
        obtain ⟨sql, hr⟩ := ha.inbox _ (List.mem_cons_self ..) hs
        rcases hreply with hnone | ⟨x, hx⟩
        · rw [show r = _ from hr] at hnone
          cases hnone
        · cases hx.symm.trans he
    · intro m hm hs he
      rcases List.mem_append.1 hm with hm | hm
      · exact ha.refused m hm hs he
      · cases List.mem_singleton.1 hm
        obtain ⟨sql, hr⟩ := ha.inbox _ (List.mem_cons_self ..) hs
        refine hf.notMem_ids_after hk (hids _ ?_)
        rw [show r = _ from hr]
        rfl

/-- A worker has delivered its result. -/
theorem Ordered.deliver (hf : f.Ordered) {j : Job}
    (hk : f.links[w]? = some ⟨channel, inbox, some j, outbox⟩) :
    f.Steps (f.after w ⟨channel, inbox, none, outbox ++ [(j.seq, .queryRan j.token j.id)]⟩
      [.put j.token j.id j.batch]) := by
  refine hf.steps_after hk ?_ (fun _ h => by cases List.mem_singleton.1 h)
    (fun hs => ⟨hs.inbox, fun j hj => by cases hj⟩) (fun hs t id batch hm => ?_) rfl (Nat.le_refl _)
    (fun s hm => ?_) ?_
  · exact (List.perm_append_singleton _ _).subperm
  · cases List.mem_singleton.1 hm
    exact hs.job j rfl
  · simp only [Link.numbers, List.map_append, List.map_cons, List.map_nil] at hm ⊢
    grind
  · intro s t ha
    refine ⟨ha.inbox, fun j hj => (by cases hj), ?_, ?_⟩
    · intro m hm hs he
      rcases List.mem_append.1 hm with hm | hm
      · exact ha.ran m hm hs he
      · cases List.mem_singleton.1 hm
        obtain ⟨-, hid⟩ := ha.job j rfl hs
        rw [← hid, after, written_append]
        exact List.mem_append_right _ (List.mem_singleton_self _)
    · intro m hm hs he
      rcases List.mem_append.1 hm with hm | hm
      · exact ha.refused m hm hs he
      · cases List.mem_singleton.1 hm
        obtain ⟨ht, hid⟩ := ha.job j rfl hs
        rw [← hid, ← ht] at he
        exact absurd rfl he

/-- A reply has reached the coordinator, or a channel has given a number out. -/
theorem Ordered.hear (hf : f.Ordered) (hk : f.links[w]? = some ⟨channel, inbox, job, outbox⟩)
    (channel' : Channel) (hworker : channel'.worker = channel.worker)
    (hissued : channel.issued ≤ channel'.issued) {outbox' : List (Nat × Reply)}
    (hout : ∀ m ∈ outbox', m ∈ outbox) :
    f.Steps (f.after w ⟨channel', inbox, job, outbox'⟩ []) := by
  refine hf.steps_after hk ?_ (fun _ h => by cases h) (fun hs => ⟨hs.inbox, hs.job⟩)
    (fun _ _ _ _ h => by cases h) hworker hissued (fun s hm => ?_) ?_
  · rw [show written [] = [] from rfl, List.append_nil]
    exact List.Subperm.refl _
  · simp only [Link.numbers, List.mem_append, List.mem_map] at hm ⊢
    grind
  · intro s t ha
    exact ⟨ha.inbox, ha.job, fun m hm => ha.ran m (hout m hm), fun m hm => ha.refused m (hout m hm)⟩

end Workers

/-- Something was pulled or given up. -/
theorem Ordered.ask (hf : f.Ordered) (hw : written new = [])
    (hp : ∀ id, .pull id ∈ new → id ∈ written f.requests) :
    f.Steps ⟨f.links, f.requests ++ new⟩ := by
  have hids : ids ⟨f.links, f.requests ++ new⟩ = f.ids := by
    rw [ids, ids, written_append, hw, List.append_nil]
  have hrequests : ∀ r ∈ f.requests, r ∈ f.requests ++ new := fun r hr =>
    List.mem_append_left _ hr
  have hputs : ∀ t id batch, .put t id batch ∈ f.requests ++ new → id = t.messageId := by
    intro t id batch hm
    refine hf.puts t id batch ((List.mem_append.1 hm).resolve_right fun hm => ?_)
    have hwritten := mem_written_iff.2 ⟨t, batch, hm⟩
    rw [hw] at hwritten
    cases hwritten
  refine ⟨⟨?_, hf.inOrder.append hp, hf.signed, hputs, hf.worker, hf.issued⟩, rfl,
    fun id hid => hids ▸ hid, hrequests, fun w k hk => ?_⟩
  · rw [hids]
    exact hf.once
  · exact ⟨k, hk, Nat.le_refl _, fun _ hm => hm,
      fun _ _ ha => ha.mono (fun hid => hids ▸ hid) hrequests⟩

section Sending

variable {r : Request}

open Traffic (queued)

theorem ids_queued (k : Link) (seq : Nat) (r : Request) :
    (queued k seq r).ids = k.ids ++ r.messageId?.toList := by
  rw [Link.ids, queued, List.filterMap_append, ← List.append_assoc]
  cases h : r.messageId? <;> simp [Link.ids, h]

theorem mem_ids_queued (hk : f.links[w]? = some k)
    (hid : id ∈ (f.after w (queued k seq r) []).ids) : id ∈ f.ids ∨ r.messageId? = some id := by
  obtain ⟨rest, hbefore, hafter⟩ := ids_after hk (queued k seq r) []
  have hm := hafter.subset hid
  rw [ids_queued] at hm
  rcases List.mem_append.1 hm with hm | hm
  · rcases List.mem_append.1 hm with hm | hm
    · rcases List.mem_append.1 hm with hm | hm
      · exact .inl (mem_ids_of_carried hk hm)
      · exact .inr (Option.mem_toList.1 hm)
    · cases hm
  · exact .inl (hbefore.symm.subset (List.mem_append_right _ hm))

theorem mem_numbers_queued {s : Nat} (hs : s ∈ (queued k seq r).numbers) :
    s ∈ k.numbers ∨ s = seq := by
  simp only [Link.numbers, queued, List.map_append, List.map_cons, List.map_nil] at hs ⊢
  grind

/-- A request enters the queue of a worker. -/
theorem Ordered.send (hf : f.Ordered) (hk : f.links[w]? = some k)
    (hseq : seq ≤ k.channel.issued) (hid : ∀ id, r.messageId? = some id → id ∉ f.ids)
    (hr : ∀ t id sql, r = .runQuery t id sql → id = t.messageId) :
    (f.after w (queued k seq r) []).Ordered where
  once := by
    obtain ⟨rest, hbefore, hafter⟩ := ids_after hk (queued k seq r) []
    refine hafter.nodup_iff.2 ?_
    rw [ids_queued]
    have hperm : (k.ids ++ r.messageId?.toList ++ written [] ++ rest).Perm
        (r.messageId?.toList ++ f.ids) := by
      refine List.perm_iff_count.2 fun i => ?_
      have hi := hbefore.count_eq i
      simp only [List.count_append, show written [] = [] from rfl, List.count_nil] at hi ⊢
      omega
    refine hperm.nodup_iff.2 ?_
    cases hr : r.messageId? with
    | none => exact hf.once
    | some id => exact List.nodup_cons.2 ⟨hid id hr, hf.once⟩
  inOrder := by
    rw [after, List.append_nil]
    exact hf.inOrder
  signed v j hv := by
    rcases getElem?_after hv with ⟨rfl, rfl⟩ | ⟨-, hv⟩
    · have hs := hf.signed v k hk
      refine ⟨fun m hm => ?_, hs.job⟩
      rcases List.mem_append.1 hm with hm | hm
      · exact hs.inbox m hm
      · cases List.mem_singleton.1 hm
        exact hr
    · exact hf.signed v j hv
  puts t id batch hm := by
    rw [after, List.append_nil] at hm
    exact hf.puts t id batch hm
  worker v j hv := by
    rcases getElem?_after hv with ⟨rfl, rfl⟩ | ⟨-, hv⟩
    · exact hf.worker v k hk
    · exact hf.worker v j hv
  issued v j hv s hm := by
    rcases getElem?_after hv with ⟨rfl, rfl⟩ | ⟨-, hv⟩
    · rcases mem_numbers_queued hm with hm | rfl
      · exact hf.issued v k hk s hm
      · exact hseq
    · exact hf.issued v j hv s hm

/-- Nothing changes for a call with another number on the same link. -/
theorem stands_queued (hk : f.links[w]? = some k) (ht : r.messageId? ≠ some t.messageId)
    {s : Stage} (hs : f.Stands ended v t s) (hother : v = w → s ≠ .asked seq) :
    (f.after w (queued k seq r) []).Stands ended v t s := by
  have hids : t.messageId ∈ (f.after w (queued k seq r) []).ids → t.messageId ∈ f.ids :=
    fun hm => (mem_ids_queued hk hm).resolve_right ht
  have hrequests : ∀ q ∈ f.requests, q ∈ (f.after w (queued k seq r) []).requests :=
    fun q hq => List.mem_append_left _ hq
  cases s with
  | fresh => exact fun hm => hs (hids hm)
  | numbered => exact fun hm => hs (hids hm)
  | asked seq' =>
    intro j hv
    rcases getElem?_after hv with ⟨rfl, rfl⟩ | ⟨-, hv⟩
    · have ha := (hs k hk).mono hids hrequests
      refine ⟨fun m hm he => ?_, ha.job, ha.ran, ha.refused⟩
      rcases List.mem_append.1 hm with hm | hm
      · exact ha.inbox m hm he
      · cases List.mem_singleton.1 hm
        exact absurd (congrArg Stage.asked he.symm) (hother rfl)
    · exact (hs j hv).mono hids hrequests
  | pulling => exact written_mono hrequests hs
  | ended => exact hs.imp_right fun hset => hset.mono hids hrequests

theorem holds_queued (hk : f.links[w]? = some k) {s : Stage} (hs : f.Holds p s)
    (hother : Live.linkOf p = w → s ≠ .numbered seq) :
    (f.after w (queued k seq r) []).Holds p s := by
  have hlink : ∀ j, f.links[Live.linkOf p]? = some j →
      ∃ j', (f.after w (queued k seq r) []).links[Live.linkOf p]? = some j' ∧
        j'.channel = j.channel ∧
        ∀ s' ∈ j'.numbers, s' ∈ j.numbers ∨ (Live.linkOf p = w ∧ s' = seq) := by
    intro j hj
    by_cases hw : Live.linkOf p = w
    · rw [hw] at hj ⊢
      cases hk.symm.trans hj
      exact ⟨queued k seq r, List.getElem?_set_self (List.getElem?_eq_some_iff.1 hk).1, rfl,
        fun s' hm => (mem_numbers_queued hm).imp_right fun he => ⟨rfl, he⟩⟩
    · exact ⟨j, (List.getElem?_set_ne (Ne.symm hw)).trans hj, rfl, fun s' hm => .inl hm⟩
  cases s with
  | numbered s' =>
    obtain ⟨j, hj, hle, hno⟩ := hs
    obtain ⟨j', hj', hchannel, hnumbers⟩ := hlink j hj
    refine ⟨j', hj', by rw [hchannel]; exact hle, fun hm => ?_⟩
    rcases hnumbers s' hm with hm | ⟨hw, rfl⟩
    · exact hno hm
    · exact hother hw rfl
  | asked s' =>
    obtain ⟨j, hj, hle⟩ := hs
    obtain ⟨j', hj', hchannel, -⟩ := hlink j hj
    exact ⟨j', hj', by rw [hchannel]; exact hle⟩
  | _ => trivial

/-- The call whose request it is waits for its own query. -/
theorem stands_queued_self (hseq : seq ∉ k.numbers) (sql : String) :
    (f.after w (queued k seq (.runQuery t t.messageId sql)) []).Stands ended w t (.asked seq) := by
  intro j hj
  rcases getElem?_after hj with ⟨-, rfl⟩ | ⟨hne, -⟩
  · have ha := awaits_of_notMem (f := f.after w (queued k seq (.runQuery t t.messageId sql)) [])
      (t := t) hseq
    refine ⟨fun m hm he => ?_, ha.job, ha.ran, ha.refused⟩
    rcases List.mem_append.1 hm with hm | hm
    · exact ha.inbox m hm he
    · cases List.mem_singleton.1 hm
      exact ⟨sql, rfl⟩
  · exact absurd rfl hne

end Sending

end Ledger

end ShardQuery
