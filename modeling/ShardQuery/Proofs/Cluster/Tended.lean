import ShardQuery.Proofs.Cluster.Ledger
import ShardQuery.Proofs.Cluster.Orderly

namespace ShardQuery

open CacheRequest

/-- The number under which a call sends its request. -/
def Stage.number? : Stage → Option Nat
  | .numbered seq => some seq
  | .asked seq => some seq
  | _ => none

/-- The workers and the cache at one time. -/
def Live.ledger (l : Live) (trace : List (Event × CacheRequest)) : Ledger :=
  ⟨l.links, trace.map Prod.snd⟩

/--
An operation under way: its calls for queries are under its own tokens, one for each, and it knows
which ids to give up.
-/
structure Ledger.Tends (f : Ledger) (h : History) (o : Nat) (r : Running) : Prop where
  workers : ∀ (i : Nat) p ahead q stage, r.calls[i]? = some ⟨⟨p, .ask ahead q⟩, stage⟩ →
    p ≠ .coordinator
  poses : ∀ (i : Nat) lc t, r.calls[i]? = some lc → lc.call.token? = some t →
    ∃ w sql, i = w + 1 ∧ h.Owns t o i ∧
      lc.call = ⟨⟨w + 1⟩, .ask none (.runQuery t t.messageId sql)⟩
  covers : ∀ t w, h.Owns t o (w + 1) →
    (∃ lc, r.calls[w + 1]? = some lc ∧ lc.call.token? = some t) ∧
      ∃ ids, r.aim = .conclude (.queried ids) ∧ ids.lookup ⟨w + 1⟩ = some t.messageId
  aim : ∀ ids p id, r.aim = .conclude (.queried ids) → ids.lookup p = some id →
    ∃ t i, h.Owns t o i ∧ id = t.messageId
  stands : ∀ w lc t, r.calls[w + 1]? = some lc → lc.call.token? = some t →
    f.Stands r.ended w t lc.stage

/-- A query for which tokens are taken, none of which was used yet. -/
structure Ledger.Drafts (f : Ledger) (n : Nat) (h : History) (o : Nat) (d : Draft) : Prop where
  size : d.tokens.length ≤ n
  tokens : ∃ t, h.tokensOf o = t :: d.tokens
  unused : ∀ t ∈ d.tokens, t.messageId ∉ f.ids

namespace Tended

/-- The workers and the coordinator's cache, which has served some requests. -/
structure Service (ms : Membership) (n : Nat) (h : History) (trace : List (Event × CacheRequest))
    (l : Live) : Prop where
  staffed : l.cluster.Staffed ms n
    (PartitionCache.serveAll (.empty .coordinator) (trace.map Prod.snd))
  links : l.links.length = n
  ordered : (l.ledger trace).Ordered
  strays : ∀ id ∈ l.strays, id ∈ written (trace.map Prod.snd)
  given : ∀ e id, (e, .discard id) ∈ trace → ∃ o t i, e = .conclude o ∧ h.Owns t o i ∧
    id = t.messageId

/-- The tokens that no call has are not in use. -/
structure Reserve (h : History) (trace : List (Event × CacheRequest)) (l : Live) : Prop where
  future : ∀ t : CorrelationToken, l.cluster.tokens.issued < t.number →
    t.messageId ∉ (l.ledger trace).ids
  first : ∀ t o, h.Owns t o 0 → t.messageId ∉ (l.ledger trace).ids

/-- The operations, from their first token to their answer. -/
structure Operations (n : Nat) (h : History) (trace : List (Event × CacheRequest)) (l : Live) :
    Prop where
  numbers : (l.running.map Prod.fst).Nodup
  drafting : ∀ o d, l.drafts.lookup o = some d →
    o < l.begun ∧ l.op? o = none ∧ (∀ p ∈ l.answers, p.1 ≠ o) ∧ (l.ledger trace).Drafts n h o d
  tending : ∀ o r, l.op? o = some r →
    o < l.begun ∧ (∀ p ∈ l.answers, p.1 ≠ o) ∧ (l.ledger trace).Tends h o r
  answered : ∀ p ∈ l.answers, p.1 < l.begun ∧
    ∀ t i, h.Owns t p.1 i → (l.ledger trace).Settled t.messageId

/-- The numbers under which the calls send their requests: no two calls to a worker share one. -/
structure Requests (trace : List (Event × CacheRequest)) (l : Live) : Prop where
  holds : ∀ o i lc, l.call? o i = some lc → (l.ledger trace).Holds lc.call.participant lc.stage
  apart : ∀ o i lc o' i' lc' seq, l.call? o i = some lc → l.call? o' i' = some lc' →
    lc.stage.number? = some seq → lc'.stage.number? = some seq →
    Live.linkOf lc.call.participant = Live.linkOf lc'.call.participant → o = o' ∧ i = i'

end Tended

/-- A cluster at work, as it is on record, whose coordinator's cache has served some requests. -/
structure Tended (ms : Membership) (n : Nat) (h : History) (trace : List (Event × CacheRequest))
    (l : Live) : Prop extends h.Numbered l.cluster.tokens.issued l.begun,
    Tended.Service ms n h trace l, Tended.Reserve h trace l, Tended.Operations n h trace l,
    Tended.Requests trace l

variable {ms : Membership} {n : Nat} {h : History} {trace : List (Event × CacheRequest)}
  {l : Live} {lc : LiveCall} {t : CorrelationToken}

namespace Ledger

variable {f g : Ledger} {r : Running}

theorem Tends.mono (hf : f.Tends h o r) {h' : History}
    (hsame : ∀ t i, h'.Owns t o i ↔ h.Owns t o i) : f.Tends h' o r where
  workers := hf.workers
  poses i lc t hi ht := by
    obtain ⟨w, sql, hw, ho, hcall⟩ := hf.poses i lc t hi ht
    exact ⟨w, sql, hw, (hsame t i).2 ho, hcall⟩
  covers t w ho := hf.covers t w ((hsame ..).1 ho)
  aim ids p id haim hid := by
    obtain ⟨t, i, ho, he⟩ := hf.aim ids p id haim hid
    exact ⟨t, i, (hsame t i).2 ho, he⟩
  stands := hf.stands

/-- The calls of a running operation go on as before if those for queries do. -/
theorem Tends.of_stands (hf : f.Tends h o r)
    (hs : ∀ w lc t, r.calls[w + 1]? = some lc → lc.call.token? = some t →
      f.Stands r.ended w t lc.stage → g.Stands r.ended w t lc.stage) : g.Tends h o r where
  workers := hf.workers
  poses := hf.poses
  covers := hf.covers
  aim := hf.aim
  stands w lc t hi ht := hs w lc t hi ht (hf.stands w lc t hi ht)

/-- Calls that are not for queries, of an operation without tokens for its workers. -/
theorem tends_plain {calls : List Call} (hc : ∀ call ∈ calls, call.Plain)
    (hn : ∀ t w, ¬ h.Owns t o (w + 1)) {aim : Aim} (ha : ∀ ids, aim ≠ .conclude (.queried ids)) :
    f.Tends h o (.fresh calls now aim) := by
  have hplain : ∀ (i : Nat) lc, (Running.fresh calls now aim).calls[i]? = some lc →
      lc.call.Plain := by
    intro i lc hi
    rw [Running.fresh, List.getElem?_map, Option.map_eq_some_iff] at hi
    obtain ⟨call, hcall, rfl⟩ := hi
    exact hc call (List.mem_of_getElem? hcall)
  refine ⟨?_, ?_, fun t w ho => absurd ho (hn t w), fun ids p id he => absurd he (ha ids), ?_⟩
  · intro i p ahead q stage hi
    exact (hplain i _ hi).participant
  · intro i lc t hi ht
    cases (hplain i lc hi).token.symm.trans ht
  · intro w lc t hi ht
    cases (hplain _ lc hi).token.symm.trans ht

theorem Stands.mono_ended {s : Stage} (hs : f.Stands ended w t s) (he : ∀ e ∈ ended, e ∈ ended') :
    f.Stands ended' w t s := by
  cases s with
  | ended =>
    rcases hs with ⟨limit, hm⟩ | hset
    · exact .inl ⟨limit, he _ hm⟩
    · exact .inr hset
  | _ => exact hs

/-- One call of a running operation gets on to another stage. -/
theorem Tends.withStage (hf : f.Tends h o r) (hi : r.calls[i]? = some lc) {r' : Running} {s : Stage}
    (hcalls : r'.calls = r.calls.modify i fun lc => { lc with stage := s }) (haim : r'.aim = r.aim)
    (hended : ∀ e ∈ r.ended, e ∈ r'.ended)
    (hstands : ∀ w t, i = w + 1 → lc.call.token? = some t → f.Stands r'.ended w t s) :
    f.Tends h o r' := by
  have hback : ∀ (j : Nat) lc', r'.calls[j]? = some lc' → ∃ lc₀, r.calls[j]? = some lc₀ ∧
      lc'.call = lc₀.call := by
    intro j lc' hj
    rw [hcalls] at hj
    obtain ⟨lc₀, h₀, rfl⟩ := Asking.getElem?_atStage.1 hj
    refine ⟨lc₀, h₀, ?_⟩
    split <;> rfl
  refine ⟨?_, ?_, ?_, ?_, ?_⟩
  · intro j p ahead q stage hj
    obtain ⟨lc₀, h₀, he⟩ := hback j _ hj
    obtain ⟨call, stage₀⟩ := lc₀
    cases he
    exact hf.workers j p ahead q stage₀ h₀
  · intro j lc' t hj htok
    obtain ⟨lc₀, h₀, he⟩ := hback j lc' hj
    rw [he] at htok ⊢
    exact hf.poses j lc₀ t h₀ htok
  · intro t w howns
    obtain ⟨⟨lc₀, h₀, htok⟩, hids⟩ := hf.covers t w howns
    rw [haim]
    refine ⟨⟨_, by rw [hcalls]; exact Asking.getElem?_atStage.2 ⟨lc₀, h₀, rfl⟩, ?_⟩, hids⟩
    split <;> exact htok
  · rw [haim]
    exact hf.aim
  · intro w lc' t hj htok
    rw [hcalls] at hj
    obtain ⟨lc₀, h₀, rfl⟩ := Asking.getElem?_atStage.1 hj
    split at htok
    · next hii =>
      rw [if_pos hii]
      rw [← hii, hi] at h₀
      cases h₀
      exact hstands w t hii htok
    · next hii =>
      rw [if_neg hii]
      exact (hf.stands w lc₀ t h₀ htok).mono_ended hended

end Ledger

namespace Tended

theorem poses (ht : Tended ms n h trace l) (hcall : l.call? o i = some lc)
    (htok : lc.call.token? = some t) :
    ∃ w sql, i = w + 1 ∧ h.Owns t o i ∧
      lc.call = ⟨⟨w + 1⟩, .ask none (.runQuery t t.messageId sql)⟩ := by
  obtain ⟨r, hr, hi⟩ := Live.call?_eq_some_iff.1 hcall
  exact (ht.tending o r hr).2.2.poses i lc t hi htok

theorem stands (ht : Tended ms n h trace l) (hcall : l.call? o (w + 1) = some lc)
    (htok : lc.call.token? = some t) :
    ∃ r, l.op? o = some r ∧ (l.ledger trace).Stands r.ended w t lc.stage := by
  obtain ⟨r, hr, hi⟩ := Live.call?_eq_some_iff.1 hcall
  exact ⟨r, hr, (ht.tending o r hr).2.2.stands w lc t hi htok⟩

theorem map_snd_noted (trace : List (Event × CacheRequest)) (e : Event) (rs : List CacheRequest) :
    (trace ++ rs.map (e, ·)).map Prod.snd = trace.map Prod.snd ++ rs := by
  rw [List.map_append, List.map_map]
  congr 1
  exact List.map_id rs

section Serve

variable {cluster : Cluster} {links : List Link} {strays : List MessageId} {e : Event}
  {rs : List CacheRequest} {trace' : List (Event × CacheRequest)}

/-- A token that comes into use is that of a call under way. -/
theorem mem_ids_of_idle (ht : Tended ms n h trace l) {g : Ledger}
    (hidle : ∀ t, (∀ o i lc, l.call? o i = some lc → lc.call.token? ≠ some t) →
      t.messageId ∈ g.ids → t.messageId ∈ (l.ledger trace).ids)
    (hno : ∀ o i, 0 < i → h.Owns t o i → l.op? o = none) (hid : t.messageId ∈ g.ids) :
    t.messageId ∈ (l.ledger trace).ids := by
  refine hidle t (fun o i lc hcall htok => ?_) hid
  obtain ⟨w, sql, rfl, howns, -⟩ := ht.poses hcall htok
  obtain ⟨r, hr, -⟩ := Live.call?_eq_some_iff.1 hcall
  cases hr.symm.trans (hno o _ (Nat.succ_pos w) howns)

theorem reserve_of_idle (ht : Tended ms n h trace l)
    (htokens : l.cluster.tokens.issued ≤ cluster.tokens.issued)
    (hunused : ∀ t, (∀ o i, 0 < i → h.Owns t o i → l.op? o = none) →
      t.messageId ∈ Ledger.ids ⟨links, trace'.map Prod.snd⟩ →
      t.messageId ∈ (l.ledger trace).ids) :
    Reserve h trace' { l with cluster, links, strays } where
  future t hlt hid := by
    have hlt' := Nat.lt_of_le_of_lt htokens hlt
    exact ht.future t hlt' (hunused t (fun _ _ _ howns => absurd howns (ht.not_owns hlt')) hid)
  first t o howns hid := by
    refine ht.first t o howns (hunused t (fun o' i hi howns' => ?_) hid)
    obtain ⟨-, rfl⟩ := howns.unique ht.distinct howns'
    exact absurd hi (Nat.lt_irrefl 0)

theorem operations_of_stands (ht : Tended ms n h trace l)
    (hunused : ∀ t, (∀ o i, 0 < i → h.Owns t o i → l.op? o = none) →
      t.messageId ∈ Ledger.ids ⟨links, trace'.map Prod.snd⟩ →
      t.messageId ∈ (l.ledger trace).ids)
    (hstands : ∀ o r w lc t, l.op? o = some r → r.calls[w + 1]? = some lc →
      lc.call.token? = some t → (l.ledger trace).Stands r.ended w t lc.stage →
      Ledger.Stands ⟨links, trace'.map Prod.snd⟩ r.ended w t lc.stage)
    (hrequests : ∀ r ∈ (l.ledger trace).requests, r ∈ trace'.map Prod.snd) :
    Operations n h trace' { l with cluster, links, strays } where
  numbers := ht.numbers
  drafting o d hd := by
    obtain ⟨hlt, hop, hans, hdraft⟩ := ht.drafting o d hd
    refine ⟨hlt, hop, hans, hdraft.size, hdraft.tokens, fun t htm hid => ?_⟩
    refine hdraft.unused t htm (hunused t (fun o' i _ howns' => ?_) hid)
    obtain ⟨t₀, htokens⟩ := hdraft.tokens
    obtain ⟨j, hj⟩ := List.getElem?_of_mem htm
    have howns : h.Owns t o (j + 1) := by
      rw [History.Owns, htokens]
      exact hj
    obtain ⟨rfl, -⟩ := howns.unique ht.distinct howns'
    exact hop
  tending o r hr := by
    obtain ⟨hlt, hans, htends⟩ := ht.tending o r hr
    exact ⟨hlt, hans, htends.of_stands fun w lc t hi htok => hstands o r w lc t hr hi htok⟩
  answered p hp := by
    obtain ⟨hlt, hset⟩ := ht.answered p hp
    refine ⟨hlt, fun t i howns => (hset t i howns).mono (hunused t fun o' j _ howns' => ?_)
      hrequests⟩
    obtain ⟨rfl, -⟩ := howns.unique ht.distinct howns'
    cases hop : l.op? p.1 with
    | none => rfl
    | some r => exact absurd rfl ((ht.tending _ r hop).2.1 p hp)

/-- What goes on at the workers and in the cache, if it is right for all calls under way. -/
theorem serveAll_of_stands (ht : Tended ms n h trace l)
    (hstaffed : cluster.Staffed ms n
      (PartitionCache.serveAll (.empty .coordinator) (trace.map Prod.snd ++ rs)))
    (htokens : l.cluster.tokens.issued ≤ cluster.tokens.issued)
    (hlinks : links.length = n)
    (hordered : Ledger.Ordered ⟨links, trace.map Prod.snd ++ rs⟩)
    (hidle : ∀ t, (∀ o i lc, l.call? o i = some lc → lc.call.token? ≠ some t) →
      t.messageId ∈ Ledger.ids ⟨links, trace.map Prod.snd ++ rs⟩ →
      t.messageId ∈ (l.ledger trace).ids)
    (hstands : ∀ o r w lc t, l.op? o = some r → r.calls[w + 1]? = some lc →
      lc.call.token? = some t → (l.ledger trace).Stands r.ended w t lc.stage →
      Ledger.Stands ⟨links, trace.map Prod.snd ++ rs⟩ r.ended w t lc.stage)
    (hholds : ∀ o i lc, l.call? o i = some lc →
      (l.ledger trace).Holds lc.call.participant lc.stage →
      Ledger.Holds ⟨links, trace.map Prod.snd ++ rs⟩ lc.call.participant lc.stage)
    (hstrays : ∀ id ∈ strays, id ∈ written (trace.map Prod.snd ++ rs))
    (hgiven : ∀ id, .discard id ∈ rs → ∃ o t i, e = .conclude o ∧ h.Owns t o i ∧
      id = t.messageId) :
    Tended ms n h (trace ++ rs.map (e, ·)) { l with cluster, links, strays } := by
  rw [← map_snd_noted trace e rs] at hstaffed hordered hidle hstands hholds hstrays
  have hrequests : ∀ r ∈ (l.ledger trace).requests,
      r ∈ (trace ++ rs.map (e, ·)).map Prod.snd := by
    intro r hr
    rw [map_snd_noted]
    exact List.mem_append_left _ hr
  exact {
    distinct := ht.distinct
    issued := fun p hp => Nat.le_trans (ht.issued p hp) htokens
    untaken := ht.untaken
    staffed := hstaffed
    links := hlinks
    ordered := hordered
    strays := hstrays
    given := by
      intro e' id hm
      rcases List.mem_append.1 hm with hm | hm
      · exact ht.given e' id hm
      · obtain ⟨r, hr, he⟩ := List.mem_map.1 hm
        cases he
        exact hgiven id hr
    toReserve := ht.reserve_of_idle htokens fun _ => ht.mem_ids_of_idle hidle
    toOperations := ht.operations_of_stands (fun _ => ht.mem_ids_of_idle hidle) hstands hrequests
    holds := fun o i lc hcall => hholds o i lc hcall (ht.holds o i lc hcall)
    apart := ht.apart
  }

/-- Workers and the cache go on, and all calls stay where they are. -/
theorem serveAll_of_steps (ht : Tended ms n h trace l)
    (hstaffed : cluster.Staffed ms n
      (PartitionCache.serveAll (.empty .coordinator) (trace.map Prod.snd ++ rs)))
    (htokens : l.cluster.tokens.issued ≤ cluster.tokens.issued)
    (hsteps : (l.ledger trace).Steps ⟨links, trace.map Prod.snd ++ rs⟩)
    (hstrays : ∀ id ∈ strays, id ∈ written (trace.map Prod.snd ++ rs))
    (hgiven : ∀ id, .discard id ∈ rs → ∃ o t i, e = .conclude o ∧ h.Owns t o i ∧
      id = t.messageId) :
    Tended ms n h (trace ++ rs.map (e, ·)) { l with cluster, links, strays } :=
  ht.serveAll_of_stands hstaffed htokens (hsteps.length.trans ht.links) hsteps.ordered
    (fun _ _ => hsteps.ids _) (fun _ _ _ _ _ _ _ _ => hsteps.stands) (fun _ _ _ _ => hsteps.holds)
    hstrays hgiven

/-- The cache is left alone. -/
theorem of_steps (ht : Tended ms n h trace l)
    (hstaffed : cluster.Staffed ms n
      (PartitionCache.serveAll (.empty .coordinator) (trace.map Prod.snd)))
    (htokens : l.cluster.tokens.issued ≤ cluster.tokens.issued)
    (hsteps : (l.ledger trace).Steps ⟨links, trace.map Prod.snd ++ []⟩)
    (hstrays : ∀ id ∈ strays, id ∈ written (trace.map Prod.snd)) :
    Tended ms n h trace { l with cluster, links, strays } := by
  rw [← List.append_nil (trace.map Prod.snd)] at hstaffed hstrays
  rw [← List.append_nil trace]
  exact ht.serveAll_of_steps (e := .stop) hstaffed htokens hsteps hstrays fun _ hm => by cases hm

end Serve

section ModifyOp

variable {f : Running → Running} {s : Stage}

theorem Operations.modifyOp (hops : Operations n h trace l) (hcall : l.call? o i = some lc)
    (hcalls : ∀ r, (f r).calls = r.calls.modify i fun lc => { lc with stage := s })
    (haim : ∀ r, (f r).aim = r.aim) (hended : ∀ r, ∀ e ∈ r.ended, e ∈ (f r).ended)
    (hstands : ∀ r w t, l.op? o = some r → i = w + 1 → lc.call.token? = some t →
      (l.ledger trace).Stands (f r).ended w t s) :
    Operations n h trace (l.modifyOp o f) where
  numbers := by
    rw [Live.numbers_modifyOp]
    exact hops.numbers
  drafting o' d hd := by
    obtain ⟨hlt, hnone, hans, hdraft⟩ := hops.drafting o' d hd
    exact ⟨hlt, by simp [hnone], hans, hdraft⟩
  tending o' r' hr' := by
    rw [Live.op?_modifyOp] at hr'
    split at hr'
    · next ho =>
      subst ho
      obtain ⟨r, hr, hi⟩ := Live.call?_eq_some_iff.1 hcall
      rw [hr] at hr'
      cases hr'
      obtain ⟨hlt, hans, htends⟩ := hops.tending _ r hr
      exact ⟨hlt, hans,
        htends.withStage hi (hcalls r) (haim r) (hended r) fun w t => hstands r w t hr⟩
    · exact hops.tending o' r' hr'
  answered := hops.answered

theorem Requests.modifyOp (hq : Requests trace l) (hcall : l.call? o i = some lc)
    (hcalls : ∀ r, (f r).calls = r.calls.modify i fun lc => { lc with stage := s })
    (hholds : (l.ledger trace).Holds lc.call.participant s)
    (hapart : ∀ seq, s.number? = some seq → ∀ o' i' lc', l.call? o' i' = some lc' →
      lc'.stage.number? = some seq →
      Live.linkOf lc'.call.participant = Live.linkOf lc.call.participant → o' = o ∧ i' = i) :
    Requests trace (l.modifyOp o f) where
  holds o' i' lc' hcall' := by
    rcases Live.call?_of_modifyOp hcall hcalls hcall' with ⟨hcall', -⟩ | ⟨-, -, rfl⟩
    · exact hq.holds o' i' lc' hcall'
    · exact hholds
  apart o₁ i₁ lc₁ o₂ i₂ lc₂ seq h₁ h₂ hs₁ hs₂ hlink := by
    rcases Live.call?_of_modifyOp hcall hcalls h₁ with ⟨hold₁, -⟩ | ⟨rfl, rfl, rfl⟩
    · rcases Live.call?_of_modifyOp hcall hcalls h₂ with ⟨hold₂, -⟩ | ⟨rfl, rfl, rfl⟩
      · exact hq.apart o₁ i₁ lc₁ o₂ i₂ lc₂ seq hold₁ hold₂ hs₁ hs₂ hlink
      · exact hapart seq hs₂ o₁ i₁ lc₁ hold₁ hs₁ hlink
    · rcases Live.call?_of_modifyOp hcall hcalls h₂ with ⟨hold₂, -⟩ | ⟨rfl, rfl, rfl⟩
      · obtain ⟨ho, hi⟩ := hapart seq hs₁ o₂ i₂ lc₂ hold₂ hs₂ hlink.symm
        exact ⟨ho.symm, hi.symm⟩
      · exact ⟨rfl, rfl⟩

/-- One call gets on to another stage. -/
theorem modifyOp (ht : Tended ms n h trace l) (hcall : l.call? o i = some lc)
    (hcalls : ∀ r, (f r).calls = r.calls.modify i fun lc => { lc with stage := s })
    (haim : ∀ r, (f r).aim = r.aim) (hended : ∀ r, ∀ e ∈ r.ended, e ∈ (f r).ended)
    (hstands : ∀ r w t, l.op? o = some r → i = w + 1 → lc.call.token? = some t →
      (l.ledger trace).Stands (f r).ended w t s)
    (hholds : (l.ledger trace).Holds lc.call.participant s)
    (hapart : ∀ seq, s.number? = some seq → ∀ o' i' lc', l.call? o' i' = some lc' →
      lc'.stage.number? = some seq →
      Live.linkOf lc'.call.participant = Live.linkOf lc.call.participant → o' = o ∧ i' = i) :
    Tended ms n h trace (l.modifyOp o f) :=
  { ht with
    toOperations := ht.toOperations.modifyOp hcall hcalls haim hended hstands
    toRequests := ht.toRequests.modifyOp hcall hcalls hholds hapart }

end ModifyOp

section WithRunning

variable {ds : List (Nat × Draft)} {rs : List (Nat × Running)}

theorem Requests.withRunning (hq : Requests trace l)
    (hops : ∀ m r, rs.lookup m = some r → l.op? m = some r ∨
      ∀ (i : Nat) lc, r.calls[i]? = some lc → lc.stage = .fresh) :
    Requests trace { l with drafts := ds, running := rs } := by
  have hold : ∀ o i lc, { l with drafts := ds, running := rs }.call? o i = some lc →
      l.call? o i = some lc ∨ lc.stage = .fresh := by
    intro o i lc hcall
    obtain ⟨r, hr, hi⟩ := Live.call?_eq_some_iff.1 hcall
    rcases hops o r hr with hop | hfresh
    · exact .inl (Live.call?_eq_some_iff.2 ⟨r, hop, hi⟩)
    · exact .inr (hfresh i lc hi)
  exact {
    holds := by
      intro o i lc hcall
      rcases hold o i lc hcall with hcall | hfresh
      · exact hq.holds o i lc hcall
      · rw [hfresh]
        trivial
    apart := by
      intro o i lc o' i' lc' seq h₁ h₂ hs₁ hs₂
      rcases hold o i lc h₁ with hold₁ | hfresh
      · rcases hold o' i' lc' h₂ with hold₂ | hfresh
        · exact hq.apart o i lc o' i' lc' seq hold₁ hold₂ hs₁ hs₂
        · rw [hfresh] at hs₂
          cases hs₂
      · rw [hfresh] at hs₁
        cases hs₁
  }

/-- Operations begin and end; one that begins has all its calls before it. -/
theorem withRunning (ht : Tended ms n h trace l) (hnumbers : (rs.map Prod.fst).Nodup)
    (hops : ∀ m r, rs.lookup m = some r → l.op? m = some r ∨
      (m < l.begun ∧ (∀ p ∈ l.answers, p.1 ≠ m) ∧ (l.ledger trace).Tends h m r ∧
        ∀ (i : Nat) lc, r.calls[i]? = some lc → lc.stage = .fresh))
    (hds : ∀ m d, ds.lookup m = some d → l.drafts.lookup m = some d ∧ rs.lookup m = none) :
    Tended ms n h trace { l with drafts := ds, running := rs } :=
  { ht with
    numbers := hnumbers
    drafting := by
      intro o d hd
      obtain ⟨hd, hnone⟩ := hds o d hd
      obtain ⟨hlt, -, hans, hdraft⟩ := ht.drafting o d hd
      exact ⟨hlt, hnone, hans, hdraft⟩
    tending := by
      intro o r hr
      rcases hops o r hr with hop | ⟨hlt, hans, htends, -⟩
      · exact ht.tending o r hop
      · exact ⟨hlt, hans, htends⟩
    toRequests := ht.toRequests.withRunning fun m r hr => (hops m r hr).imp_right (·.2.2.2) }

end WithRunning

/-- Numbers are given to operations. -/
theorem withBegun (ht : Tended ms n h trace l) (hle : l.begun ≤ begun) :
    Tended ms n h trace { l with begun } :=
  { ht with
    toNumbered := ht.toNumbered.withBegun hle
    drafting := by
      intro o d hd
      obtain ⟨hlt, hrest⟩ := ht.drafting o d hd
      exact ⟨Nat.lt_of_lt_of_le hlt hle, hrest⟩
    tending := by
      intro o r hr
      obtain ⟨hlt, hrest⟩ := ht.tending o r hr
      exact ⟨Nat.lt_of_lt_of_le hlt hle, hrest⟩
    answered := by
      intro p hp
      obtain ⟨hlt, hrest⟩ := ht.answered p hp
      exact ⟨Nat.lt_of_lt_of_le hlt hle, hrest⟩ }

/-- An operation is answered once it leaves nothing behind. -/
theorem withAnswer (ht : Tended ms n h trace l) (hlt : o < l.begun) (hop : l.op? o = none)
    (hdraft : l.drafts.lookup o = none)
    (hset : ∀ t i, h.Owns t o i → (l.ledger trace).Settled t.messageId)
    (a : Except ClusterError Answer) :
    Tended ms n h trace { l with answers := l.answers ++ [(o, a)] } := by
  have hans : ∀ m, m ≠ o → (∀ p ∈ l.answers, p.1 ≠ m) →
      ∀ p ∈ l.answers ++ [(o, a)], p.1 ≠ m := by
    intro m hne hm p hp
    rcases List.mem_append.1 hp with hp | hp
    · exact hm p hp
    · cases List.mem_singleton.1 hp
      exact hne.symm
  exact {
    ht with
    drafting := by
      intro m d hd
      obtain ⟨hm, hnone, hold, hrest⟩ := ht.drafting m d hd
      refine ⟨hm, hnone, hans m ?_ hold, hrest⟩
      rintro rfl
      cases hdraft.symm.trans hd
    tending := by
      intro m r hr
      obtain ⟨hm, hold, hrest⟩ := ht.tending m r hr
      refine ⟨hm, hans m ?_ hold, hrest⟩
      rintro rfl
      cases hop.symm.trans hr
    answered := by
      intro p hp
      rcases List.mem_append.1 hp with hp | hp
      · exact ht.answered p hp
      · cases List.mem_singleton.1 hp
        exact ⟨hlt, hset⟩
  }

section TakeToken

variable {qs : List (Nat × String)} {ds : List (Nat × Draft)} {cluster : Cluster}

/-- The new token is the only one that is new, and nothing is under it yet. -/
theorem Reserve.owns_or_unused (hr : Reserve h trace l)
    (howns : History.Owns
      { h with queries := qs, taken := h.taken ++ [(o, l.cluster.tokens.next.1)] } t m i) :
    h.Owns t m i ∨ t.messageId ∉ (l.ledger trace).ids := by
  rcases History.owns_taken.1 howns with hold | ⟨-, rfl, -⟩
  · exact .inl hold
  · exact .inr (hr.future _ (Nat.lt_succ_self _))

theorem Reserve.takeToken (hr : Reserve h trace l) :
    Reserve { h with queries := qs, taken := h.taken ++ [(o, l.cluster.tokens.next.1)] } trace
      { l with
        cluster := { l.cluster with tokens := l.cluster.tokens.next.2 }
        drafts := ds } where
  future t hlt := hr.future t (Nat.lt_of_succ_lt hlt)
  first t m howns := by
    rcases hr.owns_or_unused howns with hold | hunused
    · exact hr.first t m hold
    · exact hunused

theorem Operations.takeToken (hops : Operations n h trace l) (hr : Reserve h trace l)
    (hlt : o < l.begun) (hop : l.op? o = none)
    (hds : ∀ m d, ds.lookup m = some d → (m ≠ o ∧ l.drafts.lookup m = some d) ∨
      (m = o ∧ (∀ p ∈ l.answers, p.1 ≠ o) ∧ (l.ledger trace).Drafts n
        { h with taken := h.taken ++ [(o, l.cluster.tokens.next.1)] } o d)) :
    Operations n { h with queries := qs, taken := h.taken ++ [(o, l.cluster.tokens.next.1)] } trace
      { l with cluster, drafts := ds } where
  numbers := hops.numbers
  drafting m d hd := by
    rcases hds m d hd with ⟨hne, hd⟩ | ⟨rfl, hans, hdraft⟩
    · obtain ⟨hm, hnone, hans, hdraft⟩ := hops.drafting m d hd
      refine ⟨hm, hnone, hans, hdraft.size, ?_, hdraft.unused⟩
      rw [History.tokensOf_taken_of_ne h qs hne]
      exact hdraft.tokens
    · exact ⟨hlt, hop, hans, hdraft.size, hdraft.tokens, hdraft.unused⟩
  tending m r hr := by
    obtain ⟨hm, hans, htends⟩ := hops.tending m r hr
    have hne : m ≠ o := by
      rintro rfl
      cases hop.symm.trans hr
    refine ⟨hm, hans, htends.mono fun t i => ?_⟩
    rw [History.Owns, History.tokensOf_taken_of_ne h qs hne]
    rfl
  answered p hp := by
    obtain ⟨hm, hset⟩ := hops.answered p hp
    refine ⟨hm, fun t i howns => ?_⟩
    rcases hr.owns_or_unused howns with hold | hunused
    · exact hset t i hold
    · exact Ledger.settled_of_notMem hunused

/-- A query takes the next token, one that has just begun or one for which tokens are taken. -/
theorem takeToken (ht : Tended ms n h trace l) (hlt : o < l.begun) (hop : l.op? o = none)
    (hds : ∀ m d, ds.lookup m = some d → (m ≠ o ∧ l.drafts.lookup m = some d) ∨
      (m = o ∧ (∀ p ∈ l.answers, p.1 ≠ o) ∧ (l.ledger trace).Drafts n
        { h with taken := h.taken ++ [(o, l.cluster.tokens.next.1)] } o d)) :
    Tended ms n { h with queries := qs, taken := h.taken ++ [(o, l.cluster.tokens.next.1)] } trace
      { l with
        cluster := { l.cluster with tokens := l.cluster.tokens.next.2 }
        drafts := ds } where
  toNumbered := ht.toNumbered.takeToken (Nat.le_refl _) hlt qs
  staffed := ⟨ht.staffed.own, ht.staffed.size, ht.staffed.worker, ht.staffed.net⟩
  links := ht.links
  ordered := ht.ordered
  strays := ht.strays
  given e id hm := by
    obtain ⟨m, t, i, he, howns, hid⟩ := ht.given e id hm
    exact ⟨m, t, i, he, History.owns_taken.2 (.inl howns), hid⟩
  toReserve := ht.toReserve.takeToken
  toOperations := ht.toOperations.takeToken ht.toReserve hlt hop hds
  holds := ht.holds
  apart := ht.apart

end TakeToken

end Tended

end ShardQuery
