import ShardQuery.Proofs.Cluster.Traffic
import ShardQuery.Proofs.Cluster.Perform

namespace ShardQuery

namespace Live

variable {l : Live}

@[simp, grind =]
theorem op?_modifyOp (l : Live) (o : Nat) (f : Running → Running) (n : Nat) :
    (l.modifyOp o f).op? n = if n = o then (l.op? n).map f else l.op? n :=
  lookup_modify ..

theorem numbers_modifyOp (l : Live) (o : Nat) (f : Running → Running) :
    (l.modifyOp o f).running.map Prod.fst = l.running.map Prod.fst := by
  rw [modifyOp, List.map_map]
  refine List.map_congr_left fun p _ => ?_
  obtain ⟨n, r⟩ := p
  show (if n = o then (n, f r) else (n, r)).1 = n
  split <;> rfl

theorem op?_append (hnone : l.op? o = none) (ds : List (Nat × Draft)) (r : Running) (n : Nat) :
    { l with drafts := ds, running := l.running ++ [(o, r)] }.op? n =
      if n = o then some r else l.op? n := by
  by_cases hn : n = o
  · subst hn
    simp [op?, show l.running.lookup n = none from hnone]
  · simp [op?, hn]

theorem nodup_numbers_append (hl : (l.running.map Prod.fst).Nodup) (hnone : l.op? o = none)
    (r : Running) : ((l.running ++ [(o, r)]).map Prod.fst).Nodup := by
  rw [List.map_append]
  refine List.nodup_append.2 ⟨hl, List.nodup_singleton _, ?_⟩
  rintro n hn m hm rfl
  cases List.mem_singleton.1 hm
  obtain ⟨⟨n, r⟩, hmem, rfl⟩ := List.mem_map.1 hn
  cases hnone.symm.trans (lookup_of_mem hl hmem)

theorem call?_eq_some_iff :
    l.call? o i = some lc ↔ ∃ r, l.op? o = some r ∧ r.calls[i]? = some lc :=
  Option.bind_eq_some_iff

theorem call?_of_waiting? (hl : (l.running.map Prod.fst).Nodup)
    (hw : l.waiting? p seq = some (o, i)) :
    ∃ lc, l.call? o i = some lc ∧ lc.stage = .asked seq ∧ lc.call.participant = p := by
  obtain ⟨⟨n, r⟩, hmem, he⟩ := List.exists_of_findSome?_eq_some hw
  obtain ⟨j, hj, he⟩ := Option.map_eq_some_iff.1 he
  cases he
  obtain ⟨hlt, hawaits, -⟩ := List.findIdx?_eq_some_iff_getElem.1 hj
  obtain ⟨hp, hstage⟩ := Bool.and_eq_true_iff.1 hawaits
  refine ⟨r.calls[i], ?_, of_decide_eq_true hstage, of_decide_eq_true hp⟩
  exact call?_eq_some_iff.2 ⟨r, lookup_of_mem hl hmem, List.getElem?_eq_getElem hlt⟩

end Live

open Traffic

/-- What a participant has for a query that it can run. -/
def share (es : Nat → Engine) (sql : String) (i : Nat) : Batch :=
  (part es sql i).toOption.getD (.empty [])

theorem share_of_part (h : part es sql i = .ok b) : share es sql i = b := by
  rw [share, h]
  rfl

/-- A call of a query at its position: the coordinator gives its own part, workers are asked. -/
inductive Fits (es : Nat → Engine) (h : History) (o : Nat) (sql : String) : Nat → Call → Prop where
  | own : Fits es h o sql 0 ⟨⟨0⟩, .own (part es sql 0)⟩
  | ask (ho : h.Owns t o (i + 1)) :
    Fits es h o sql (i + 1) ⟨⟨i + 1⟩, .ask none (.runQuery t t.messageId sql)⟩

theorem Fits.mono {es : Nat → Engine} {h h' : History} (hf : Fits es h o sql i call)
    (hm : ∀ t j, h.Owns t o j → h'.Owns t o j) : Fits es h' o sql i call := by
  cases hf with
  | own => exact .own
  | ask ho => exact .ask (hm _ _ ho)

structure Drafting (c : Cluster) (es : Nat → Engine) (h : History) (o : Nat) (d : Draft) :
    Prop where
  query : h.queries.lookup o = some d.sql
  tokens : ∃ t, h.tokensOf o = t :: d.tokens
  size : d.tokens.length ≤ c.workers.length
  prepared : (es 0).prepare d.sql = .ok d.prepared
  parts : h.partsOf o = []

structure Asking (c : Cluster) (es : Nat → Engine) (h : History) (o : Nat) (sql : String)
    (r : Running) : Prop where
  query : h.queries.lookup o = some sql
  size : r.calls.length = c.workers.length + 1
  fits : ∀ (i : Nat) lc, r.calls[i]? = some lc → Fits es h o sql i lc.call
  aim : ∃ ids, r.aim = .conclude (.queried ids) ∧
    ∀ p ∈ ids, ∃ t i, h.Owns t o i ∧ p.2 = t.messageId
  once : (r.ended.map Prod.fst).Nodup
  ended : ∀ i, ⟨i⟩ ∈ r.ended.map Prod.fst ↔ ∃ lc, r.calls[i]? = some lc ∧ lc.stage = .ended
  parts : r.ended.filterMap Outcome.completed? =
    (h.partsOf o).map fun i => (⟨i⟩, .rows (share es sql i))
  came : ∀ i ∈ h.partsOf o, part es sql i = .ok (share es sql i)

/--
A query that was answered: each participant's part came in once, and the answer is made of them in
the order in which they came.
-/
structure Answered (c : Cluster) (es : Nat → Engine) (h : History) (o : Nat) (sql : String)
    (answer : Answer) : Prop where
  query : h.queries.lookup o = some sql
  each : (h.partsOf o).Perm (List.range (c.workers.length + 1))
  came : ∀ i ≤ c.workers.length, part es sql i = .ok (share es sql i)
  combined : Cluster.combine ((h.partsOf o).map fun i => (⟨i⟩, .rows (share es sql i))) = .ok answer

namespace Asking

variable {c : Cluster} {es : Nat → Engine} {h : History} {r : Running} {lc : LiveCall}

theorem participant_eq (hf : Fits es h o sql i call) : call.participant = ⟨i⟩ := by
  cases hf <;> rfl

theorem getElem?_atStage {calls : List LiveCall} {i j : Nat} {s : Stage} :
    (calls.modify i fun lc => { lc with stage := s })[j]? = some lc ↔
      ∃ lc', calls[j]? = some lc' ∧ lc = if i = j then { lc' with stage := s } else lc' := by
  rw [List.getElem?_modify, Option.map_eq_map, Option.map_eq_some_iff]
  exact exists_congr fun _ => and_congr_right fun _ => eq_comm

theorem calls_ending (r : Running) (i : Nat) (x : Except FailureKind Answer) :
    (r.ending i x).calls = r.calls.modify i fun lc => { lc with stage := .ended } := by
  rw [Running.ending]
  cases hi : r.calls[i]? with
  | some lc => rfl
  | none =>
    refine List.ext_getElem? fun j => ?_
    rw [List.getElem?_modify]
    by_cases hj : i = j
    · subst hj
      simp [hi]
    · simp [hj]

theorem ending_eq (hi : r.calls[i]? = some lc) (x : Except FailureKind Answer) :
    r.ending i x = { r.withStage i .ended with ended := r.ended ++ [(lc.call.participant, x)] } := by
  rw [Running.ending, hi]

theorem withStage (ha : Asking c es h o sql r) (hi : r.calls[i]? = some lc)
    (hlive : lc.stage ≠ .ended) {s : Stage} (hs : s ≠ .ended) :
    Asking c es h o sql (r.withStage i s) where
  query := ha.query
  size := by rw [← ha.size]; exact List.length_modify ..
  fits j lc' hj := by
    obtain ⟨lc₀, h₀, rfl⟩ := getElem?_atStage.1 hj
    have hf := ha.fits j lc₀ h₀
    split <;> exact hf
  aim := ha.aim
  once := ha.once
  ended j := by
    refine (ha.ended j).trans ⟨?_, ?_⟩
    · rintro ⟨lc', hj, he⟩
      refine ⟨lc', getElem?_atStage.2 ⟨lc', hj, ?_⟩, he⟩
      rw [if_neg]
      rintro rfl
      rw [hi] at hj
      cases hj
      exact hlive he
    · rintro ⟨lc', hj, he⟩
      obtain ⟨lc₀, h₀, rfl⟩ := getElem?_atStage.1 hj
      split at he
      · exact absurd he hs
      · exact ⟨lc₀, h₀, he⟩
  parts := ha.parts
  came := ha.came

theorem notMem_ended (ha : Asking c es h o sql r) (hi : r.calls[i]? = some lc)
    (hlive : lc.stage ≠ .ended) : ⟨i⟩ ∉ r.ended.map Prod.fst := by
  intro hm
  obtain ⟨lc', hj, he⟩ := (ha.ended i).1 hm
  rw [hi] at hj
  cases hj
  exact hlive he

theorem once_ending (ha : Asking c es h o sql r) (hi : r.calls[i]? = some lc)
    (hlive : lc.stage ≠ .ended) (x : Except FailureKind Answer) :
    ((r.ending i x).ended.map Prod.fst).Nodup ∧
      ∀ j, ⟨j⟩ ∈ (r.ending i x).ended.map Prod.fst ↔
        ∃ lc, (r.ending i x).calls[j]? = some lc ∧ lc.stage = .ended := by
  have hp := participant_eq (ha.fits i lc hi)
  have hnew := ha.notMem_ended hi hlive
  rw [calls_ending, ending_eq hi, List.map_append]
  constructor
  · refine List.nodup_append.2 ⟨ha.once, List.nodup_singleton _, ?_⟩
    intro p hpm q hq
    cases List.mem_singleton.1 hq
    rintro rfl
    rw [hp] at hpm
    exact hnew hpm
  · intro j
    rw [List.mem_append, ha.ended j, List.map_singleton, List.mem_singleton, hp]
    constructor
    · rintro (⟨lc', hj, he⟩ | he)
      · refine ⟨_, getElem?_atStage.2 ⟨lc', hj, rfl⟩, ?_⟩
        split
        · rfl
        · exact he
      · cases he
        exact ⟨_, getElem?_atStage.2 ⟨lc, hi, rfl⟩, by rw [if_pos rfl]⟩
    · rintro ⟨lc', hj, he⟩
      obtain ⟨lc₀, h₀, rfl⟩ := getElem?_atStage.1 hj
      split at he
      · next hij => exact .inr (congrArg _ hij.symm)
      · exact .inl ⟨lc₀, h₀, he⟩

theorem fits_ending (ha : Asking c es h o sql r) (x : Except FailureKind Answer) (j : Nat)
    (lc : LiveCall) (hj : (r.ending i x).calls[j]? = some lc) : Fits es h o sql j lc.call := by
  rw [calls_ending] at hj
  obtain ⟨lc₀, h₀, rfl⟩ := getElem?_atStage.1 hj
  have hf := ha.fits j lc₀ h₀
  split <;> exact hf

theorem fail (ha : Asking c es h o sql r) (hi : r.calls[i]? = some lc)
    (hlive : lc.stage ≠ .ended) (x : FailureKind) :
    Asking c es h o sql (r.ending i (.error x)) where
  query := ha.query
  size := by rw [calls_ending, List.length_modify, ha.size]
  fits := ha.fits_ending _
  aim := by rw [ending_eq hi]; exact ha.aim
  once := (ha.once_ending hi hlive _).1
  ended := (ha.once_ending hi hlive _).2
  parts := by
    rw [ending_eq hi]
    show (r.ended ++ [(lc.call.participant, Except.error x)]).filterMap Outcome.completed? = _
    rw [List.filterMap_append, ha.parts]
    exact List.append_nil _
  came := ha.came

theorem come (ha : Asking c es h o sql r) (hi : r.calls[i]? = some lc)
    (hlive : lc.stage ≠ .ended) (hpart : part es sql i = .ok b) :
    Asking c es { h with parts := h.parts ++ [(o, i)] } o sql (r.ending i (.ok (.rows b))) where
  query := ha.query
  size := by rw [calls_ending, List.length_modify, ha.size]
  fits j lc' hj := (ha.fits_ending _ j lc' hj).mono fun _ _ ho => ho
  aim := by rw [ending_eq hi]; exact ha.aim
  once := (ha.once_ending hi hlive _).1
  ended := (ha.once_ending hi hlive _).2
  parts := by
    have hp := participant_eq (ha.fits i lc hi)
    rw [ending_eq hi, History.partsOf, History.only_append, if_pos rfl, List.map_append]
    show (r.ended ++ [(lc.call.participant, Except.ok (Answer.rows b))]).filterMap Outcome.completed? = _
    rw [List.filterMap_append, ha.parts, hp, ← share_of_part hpart]
    rfl
  came j hj := by
    rw [History.partsOf, History.only_append, if_pos rfl] at hj
    rcases List.mem_append.1 hj with hj | hj
    · exact ha.came j hj
    · cases List.mem_singleton.1 hj
      rw [share_of_part hpart]
      exact hpart

theorem mono (ha : Asking c es h o sql r) {h' : History}
    (hq : h'.queries.lookup o = some sql) (hm : ∀ t n j, h.Owns t n j → h'.Owns t n j)
    (hp : h'.partsOf o = h.partsOf o) : Asking c es h' o sql r where
  query := hq
  size := ha.size
  fits i lc hi := (ha.fits i lc hi).mono fun t j => hm t o j
  aim := by
    obtain ⟨ids, haim, hids⟩ := ha.aim
    refine ⟨ids, haim, fun p hmem => ?_⟩
    obtain ⟨t, i, ht, hid⟩ := hids p hmem
    exact ⟨t, i, hm _ _ _ ht, hid⟩
  once := ha.once
  ended := ha.ended
  parts := by rw [hp]; exact ha.parts
  came := by rw [hp]; exact ha.came

theorem map_fst_completed {ended : List (ParticipantId × Except FailureKind α)}
    (hok : ∀ e ∈ ended, ∃ a, e.2 = .ok a) :
    (ended.filterMap Outcome.completed?).map Prod.fst = ended.map Prod.fst := by
  induction ended with
  | nil => rfl
  | cons e ended ih =>
    obtain ⟨p, x⟩ := e
    obtain ⟨a, ha⟩ := hok _ (List.mem_cons_self ..)
    cases ha
    rw [List.filterMap_cons, List.map_cons, ← ih fun e he => hok e (List.mem_cons_of_mem _ he)]
    rfl

/-- A query all of whose calls have ended has an answer only if each brought its part. -/
theorem answered (ha : Asking c es h o sql r) (hall : r.allEnded = true)
    (hok : ((Outcome.ofEnded r.ended).result "sql" >>= Cluster.combine) = .ok a) :
    Answered c es h o sql a := by
  obtain ⟨partials, hresult, hcombine⟩ := Except.bind_eq_ok_iff.1 hok
  by_cases hcomplete : (Outcome.ofEnded r.ended).isComplete = true
  · rw [Outcome.result_of_complete hcomplete] at hresult
    cases hresult
    have hparts : (Outcome.ofEnded r.ended).completed = _ := ha.parts
    rw [hparts] at hcombine
    -- the parts that came in are those of the participants whose calls have ended
    have hids : (h.partsOf o).map ParticipantId.mk = r.ended.map Prod.fst := by
      rw [← map_fst_completed (Outcome.isComplete_ofEnded_iff.1 hcomplete), ha.parts,
        List.map_map]
      rfl
    have hmem : ∀ i, i ∈ h.partsOf o ↔ i < c.workers.length + 1 := by
      intro i
      have hi : i ∈ h.partsOf o ↔ ⟨i⟩ ∈ r.ended.map Prod.fst := by
        rw [← hids, List.mem_map]
        constructor
        · intro hi
          exact ⟨i, hi, rfl⟩
        · rintro ⟨j, hj, he⟩
          cases he
          exact hj
      rw [hi, ha.ended i, ← ha.size]
      constructor
      · rintro ⟨lc, hlc, -⟩
        exact (List.getElem?_eq_some_iff.1 hlc).1
      · intro hlt
        have hstage := List.all_eq_true.1 hall _ (List.getElem_mem hlt)
        exact ⟨_, List.getElem?_eq_getElem hlt, of_decide_eq_true hstage⟩
    have hnodup : (h.partsOf o).Nodup := by
      apply List.Nodup.of_map ParticipantId.mk
      rw [hids]
      exact ha.once
    refine ⟨ha.query, ?_, fun i hi => ha.came i ((hmem i).2 (Nat.lt_succ_of_le hi)), hcombine⟩
    refine (List.perm_ext_iff_of_nodup hnodup List.nodup_range).2 fun i => ?_
    rw [hmem, List.mem_range]
  · rw [Outcome.result_of_incomplete hcomplete] at hresult
    cases hresult

end Asking

theorem Live.call?_modifyOp {l : Live} {f : Running → Running} {s : Stage}
    (hcall : l.call? o i = some lc)
    (hcalls : ∀ r, (f r).calls = r.calls.modify i fun lc => { lc with stage := s }) :
    (l.modifyOp o f).call? o i = some { lc with stage := s } := by
  obtain ⟨r, hr, hi⟩ := call?_eq_some_iff.1 hcall
  refine call?_eq_some_iff.2 ⟨f r, by simp [hr], ?_⟩
  rw [hcalls]
  exact Asking.getElem?_atStage.2 ⟨lc, hi, (if_pos rfl).symm⟩

/-- Once a call of an operation is at another stage, all other calls are as they were. -/
theorem Live.call?_of_modifyOp {l : Live} {f : Running → Running} {s : Stage}
    (hcall : l.call? o i = some lc)
    (hcalls : ∀ r, (f r).calls = r.calls.modify i fun lc => { lc with stage := s })
    (hcall' : (l.modifyOp o f).call? n j = some lc') :
    (l.call? n j = some lc' ∧ ¬ (n = o ∧ j = i)) ∨ (n = o ∧ j = i ∧ lc' = { lc with stage := s }) := by
  obtain ⟨r, hr, hi⟩ := call?_eq_some_iff.1 hcall
  obtain ⟨r', hr', hj⟩ := call?_eq_some_iff.1 hcall'
  rw [op?_modifyOp] at hr'
  by_cases hn : n = o
  · subst hn
    rw [if_pos rfl, hr] at hr'
    cases hr'
    rw [hcalls] at hj
    obtain ⟨lc₀, h₀, rfl⟩ := Asking.getElem?_atStage.1 hj
    by_cases hij : i = j
    · subst hij
      cases hi.symm.trans h₀
      exact .inr ⟨rfl, rfl, if_pos rfl⟩
    · rw [if_neg hij]
      exact .inl ⟨call?_eq_some_iff.2 ⟨r, hr, h₀⟩, fun he => hij he.2.symm⟩
  · rw [if_neg hn] at hr'
    exact .inl ⟨call?_eq_some_iff.2 ⟨r', hr', hj⟩, fun he => hn he.1⟩

theorem Drafting.mono {c : Cluster} {es : Nat → Engine} {h h' : History}
    (hd : Drafting c es h o d) (hq : h'.queries.lookup o = some d.sql)
    (ht : h'.tokensOf o = h.tokensOf o) (hp : h'.partsOf o = h.partsOf o) :
    Drafting c es h' o d where
  query := hq
  tokens := by rw [ht]; exact hd.tokens
  size := hd.size
  prepared := hd.prepared
  parts := hp.trans hd.parts

theorem Answered.mono {c : Cluster} {es : Nat → Engine} {h h' : History}
    (ha : Answered c es h o sql a) (hq : h'.queries.lookup o = some sql)
    (hp : h'.partsOf o = h.partsOf o) : Answered c es h' o sql a where
  query := hq
  each := by rw [hp]; exact ha.each
  came := ha.came
  combined := by rw [hp]; exact ha.combined

theorem Drafting.owns {c : Cluster} {es : Nat → Engine} {h : History} {i : Nat}
    (hd : Drafting c es h o d) (ht : d.tokens[i]? = some t) : h.Owns t o (i + 1) := by
  obtain ⟨t₀, htokens⟩ := hd.tokens
  rw [History.Owns, htokens]
  exact ht

theorem Drafting.fits {c : Cluster} {es fs : Nat → Engine} {h : History} (hc : c.Hosts fs)
    (hd : Drafting c es h o d) (hi : (c.dispatch d).1[i]? = some call) :
    Fits es h o d.sql i call := by
  cases i with
  | zero =>
    cases hi
    have hpart : part es d.sql 0 = d.prepared.run := by
      rw [part, hd.prepared]
      rfl
    rw [← hpart]
    exact .own
  | succ i =>
    obtain ⟨p, t, hp, ht, rfl⟩ := List.getElem?_zipWith_eq_some.1 hi
    rw [hc.workerIds, List.getElem?_map, Option.map_eq_some_iff] at hp
    obtain ⟨j, hj, rfl⟩ := hp
    obtain ⟨hlt, rfl⟩ := List.getElem?_eq_some_iff.1 hj
    rw [List.getElem_range]
    exact .ask (hd.owns ht)

theorem Drafting.asking {c : Cluster} {es fs : Nat → Engine} {h : History} (hc : c.Hosts fs)
    (hd : Drafting c es h o d) (hsize : d.tokens.length = c.workers.length) (now : Nat) :
    Asking c es h o d.sql (.fresh (c.dispatch d).1 now (.conclude (c.dispatch d).2)) where
  query := hd.query
  size := by
    simp [Running.fresh, Cluster.dispatch, Cluster.callEach, Cluster.workerIds, hsize]
  fits i lc hi := by
    rw [Running.fresh, List.getElem?_map, Option.map_eq_some_iff] at hi
    obtain ⟨call, hcall, rfl⟩ := hi
    exact hd.fits hc hcall
  aim := by
    refine ⟨_, rfl, fun p hp => ?_⟩
    obtain ⟨t, ht, he⟩ := List.mem_map.1 (List.of_mem_zip hp).2
    obtain ⟨i, hi⟩ := List.getElem?_of_mem ht
    exact ⟨t, i + 1, hd.owns hi, he.symm⟩
  once := List.nodup_nil
  ended i := by
    apply iff_of_false List.not_mem_nil
    rintro ⟨lc, hi, he⟩
    rw [Running.fresh, List.getElem?_map, Option.map_eq_some_iff] at hi
    obtain ⟨call, -, rfl⟩ := hi
    cases he
  parts := by
    rw [hd.parts]
    rfl
  came i hi := by
    rw [hd.parts] at hi
    cases hi

end ShardQuery
