import ShardQuery.Proofs.Cluster.Inquiry
import ShardQuery.Proofs.Cluster.Launch
import ShardQuery.Cluster.Halting

namespace ShardQuery

namespace Outcome

variable {α : Type u} {ended : List (ParticipantId × Except FailureKind α)}

theorem mem_map_completed :
    p ∈ (ended.filterMap completed?).map Prod.fst ↔ ∃ a, (p, .ok a) ∈ ended := by
  rw [List.mem_map]
  constructor
  · rintro ⟨x, hx, rfl⟩
    obtain ⟨⟨q, r⟩, hq, he⟩ := List.mem_filterMap.1 hx
    cases r with
    | ok a =>
      cases he
      exact ⟨a, hq⟩
    | error k => cases he
  · rintro ⟨a, ha⟩
    exact ⟨(p, a), List.mem_filterMap.2 ⟨_, ha, rfl⟩, rfl⟩

theorem mem_map_failures :
    p ∈ (ended.filterMap failure?).map Failure.participant ↔ ∃ k, (p, .error k) ∈ ended := by
  rw [List.mem_map]
  constructor
  · rintro ⟨x, hx, rfl⟩
    obtain ⟨⟨q, r⟩, hq, he⟩ := List.mem_filterMap.1 hx
    cases r with
    | ok a => cases he
    | error k =>
      cases he
      exact ⟨k, hq⟩
  · rintro ⟨k, hk⟩
    exact ⟨⟨p, k⟩, List.mem_filterMap.2 ⟨_, hk, rfl⟩, rfl⟩

theorem map_failures_sublist :
    ((ended.filterMap failure?).map Failure.participant).Sublist (ended.map Prod.fst) := by
  induction ended with
  | nil => exact .slnil
  | cons e ended ih =>
    obtain ⟨p, r⟩ := e
    cases r with
    | ok a => exact ih.cons p
    | error k => exact ih.cons_cons p

/-- A report names those that did not do their part, by their numbers. -/
theorem failures_eq {ps : List ParticipantId} (hps : ps.Pairwise (·.number < ·.number))
    (hended : (ended.map Prod.fst).Perm ps) :
    (ofEnded ended).failures.map Failure.participant =
      ps.filter (· ∉ (ended.filterMap completed?).map Prod.fst) := by
  -- both sides are in the order of the numbers, so that a permutation is enough
  have hnodup : ps.Nodup := hps.imp fun h he => absurd h (by rw [he]; exact Nat.lt_irrefl _)
  have hone := hended.nodup_iff.2 hnodup
  have hsorted : ((ofEnded ended).failures.map Failure.participant).Pairwise
      (·.number ≤ ·.number) :=
    List.pairwise_map.2 (pairwise_mergeSort_key (fun f : Failure => f.participant.number) _)
  have hperm : ((ofEnded ended).failures.map Failure.participant).Perm
      (ps.filter (· ∉ (ended.filterMap completed?).map Prod.fst)) := by
    refine ((List.mergeSort_perm ..).map _).trans ?_
    refine (List.perm_ext_iff_of_nodup (hone.sublist map_failures_sublist)
      (hnodup.filter _)).2 fun p => ?_
    rw [mem_map_failures, List.mem_filter, decide_eq_true_eq, mem_map_completed, ← hended.mem_iff]
    constructor
    · rintro ⟨k, hk⟩
      refine ⟨List.mem_map_of_mem hk, ?_⟩
      rintro ⟨a, ha⟩
      cases List.inj_on_of_nodup_map hone hk ha rfl
    · rintro ⟨hp, hnone⟩
      obtain ⟨⟨q, r⟩, hq, rfl⟩ := List.mem_map.1 hp
      cases r with
      | ok a => exact absurd ⟨a, hq⟩ hnone
      | error k => exact ⟨k, hq⟩
  refine hperm.eq_of_pairwise ?_ hsorted ((hps.filter _).imp Nat.le_of_lt)
  intro p q _ _ hpq hqp
  exact congrArg ParticipantId.mk (Nat.le_antisymm hpq hqp)

end Outcome

def Task.bringsRows : Task → Bool
  | .own _ => true
  | .ask _ r => r.pulls

/-- The participants to which an operation makes calls. -/
def Operation.called (op : Operation) (ids : List ParticipantId) : List ParticipantId :=
  if op.isQuery then .coordinator :: ids else ids

/-- Whether a goal is that of an operation. -/
def Goal.Serves : Goal → Operation → Prop
  | .created _, .create .. => True
  | .loaded .., .createFromSource _ => True
  | .dropped _, .drop _ => True
  | .queried _, .query _ => True
  | _, _ => False

/--
What the parts of an operation say of its answer: a success is that of all participants, and a query
that was sent out and fails names those whose part is missing, unless all parts are there and do not
go together.
-/
structure Told (ids : List ParticipantId) (op : Operation) (parts : List (ParticipantId × Answer))
    (answer : Except ClusterError Answer) : Prop where
  whole : ∀ a, answer = .ok a → (∀ name, op ≠ .drop name) →
    (parts.map Prod.fst).Perm (.coordinator :: ids)
  combined : ∀ a, answer = .ok a → op.isQuery = true → Cluster.combine parts = .ok a
  failed : ∀ e, answer = .error e → op.isQuery = true →
    parts = [] ∨
    ((parts.map Prod.fst).Perm (.coordinator :: ids) ∧ Cluster.combine parts = .error e ∧
      e = .engine .invalidBatch ∧ Cluster.isTorn parts = false) ∨
    ¬ (parts.map Prod.fst).Perm (.coordinator :: ids) ∧ ∃ fs, e = .barrierFailed "sql" fs ∧
      fs.map Failure.participant = (.coordinator :: ids).filter (· ∉ parts.map Prod.fst)

/-- A call that can go on until it has ended. -/
structure LiveCall.Fits (ids : List ParticipantId) (c : LiveCall) : Prop where
  own : ∀ result, c.call.task = .own result → c.stage = .fresh ∨ c.stage = .ended
  ask : ∀ share r, c.call.task = .ask share r → c.call.participant ∈ ids

structure Doing (ids : List ParticipantId) (op : Operation) (parts : List (ParticipantId × Answer))
    (goal : Goal) (r : Running) : Prop where
  serves : goal.Serves op
  called : (r.calls.map LiveCall.call).map Call.participant = op.called ids
  rows : ∀ call ∈ r.calls.map LiveCall.call, call.task.bringsRows = op.isQuery
  brought : op.isQuery = true → ∀ x ∈ parts, x.2.batch?.isSome = true
  ended : (r.ended.map Prod.fst).Perm
    ((r.calls.filter (·.stage = .ended)).map (·.call.participant))
  parts : parts = goal.ownPart ++ r.ended.filterMap Outcome.completed?

structure Going (ids : List ParticipantId) (op : Operation) (parts : List (ParticipantId × Answer))
    (r : Running) : Prop where
  fits : ∀ c ∈ r.calls, c.Fits ids
  doing : ∀ goal, r.aim = .conclude goal → Doing ids op parts goal r
  told : ∀ a, r.aim = .give a → Told ids op parts a

variable {ids : List ParticipantId} {op : Operation} {parts : List (ParticipantId × Answer)}
  {r : Running} {lc : LiveCall} {goal : Goal}

theorem map_call_atStage (calls : List LiveCall) (i : Nat) (s : Stage) :
    (calls.modify i fun lc => { lc with stage := s }).map LiveCall.call =
      calls.map LiveCall.call := by
  apply List.ext_getElem?
  intro j
  rw [List.getElem?_map, List.getElem?_map, List.getElem?_modify, Option.map_eq_map,
    Option.map_map]
  congr 1
  funext lc
  show (if i = j then _ else _ : LiveCall).call = lc.call
  split <;> rfl

namespace Doing

theorem turn (h : Doing ids op parts goal r) (hi : r.calls[i]? = some lc) (hs : lc.stage ≠ .ended)
    (hs' : s ≠ .ended) : Doing ids op parts goal (r.withStage i s) where
  serves := h.serves
  called := by
    rw [Running.withStage, map_call_atStage]
    exact h.called
  rows := by
    rw [Running.withStage, map_call_atStage]
    exact h.rows
  brought := h.brought
  ended := by
    rw [Running.withStage, filter_modify_of_not hi (decide_eq_false hs) (decide_eq_false hs')]
    exact h.ended
  parts := h.parts

/-- A call ends, and is a part of the operation if it succeeds. -/
theorem ends (h : Doing ids op parts goal r) (hi : r.calls[i]? = some lc)
    (hs : lc.stage ≠ .ended) {x : Except FailureKind Answer}
    (hx : ∀ a, x = .ok a → lc.call.task.bringsRows = a.batch?.isSome) :
    Doing ids op (parts ++ [(lc.call.participant, x)].filterMap Outcome.completed?) goal
      (r.ending i x) := by
  have hcall : lc.call ∈ r.calls.map LiveCall.call := List.mem_map_of_mem (List.mem_of_getElem? hi)
  have hended : (r.ending i x).ended = r.ended ++ [(lc.call.participant, x)] := by
    rw [Asking.ending_eq hi]
  constructor
  · exact h.serves
  · rw [Asking.calls_ending, map_call_atStage]
    exact h.called
  · rw [Asking.calls_ending, map_call_atStage]
    exact h.rows
  · intro hq y hy
    rcases List.mem_append.1 hy with hy | hy
    · exact h.brought hq y hy
    · cases x with
      | error k => cases hy
      | ok a =>
        cases List.mem_singleton.1 hy
        rw [← hx a rfl, h.rows _ hcall, hq]
  · have hperm := filter_modify_perm (f := fun lc => { lc with stage := .ended }) (p := fun lc =>
      decide (lc.stage = .ended)) hi (decide_eq_false hs) (decide_eq_true rfl)
    rw [hended, Asking.calls_ending, List.map_append]
    refine (h.ended.append_right _).trans ?_
    have hmap := (hperm.map (·.call.participant)).symm
    rw [List.map_append] at hmap
    exact hmap
  · rw [hended, List.filterMap_append, ← List.append_assoc, ← h.parts]

/-- Once all calls have ended, each was to one participant. -/
theorem perm_called (h : Doing ids op parts goal r) (hall : r.allEnded = true) :
    (r.ended.map Prod.fst).Perm (op.called ids) := by
  have hfilter : r.calls.filter (·.stage = .ended) = r.calls :=
    List.filter_eq_self.2 (List.all_eq_true.1 hall)
  have hended := h.ended
  rw [hfilter] at hended
  rw [← h.called, List.map_map]
  exact hended

theorem perm_whole (h : Doing ids op parts goal r) (hall : r.allEnded = true)
    (hcomplete : (Outcome.ofEnded r.ended).isComplete = true)
    (hown : goal.ownPart.map Prod.fst ++ op.called ids = .coordinator :: ids) :
    (parts.map Prod.fst).Perm (.coordinator :: ids) := by
  rw [← hown, h.parts, List.map_append,
    Asking.map_fst_completed (Outcome.isComplete_ofEnded_iff.1 hcomplete)]
  exact (h.perm_called hall).append_left _

end Doing

theorem Outcome.isComplete_of_result {o : Outcome α} (h : o.result operation = .ok ps) :
    o.isComplete = true := by
  by_contra hno
  cases (Outcome.result_of_incomplete hno operation).symm.trans h

/-- Nothing more is said of the parts of a failure that is not that of a query. -/
theorem Told.of_plain {answer : Except ClusterError Answer} (hop : op.isQuery = false)
    (hwhole : ∀ a, answer = .ok a → (∀ name, op ≠ .drop name) →
      (parts.map Prod.fst).Perm (.coordinator :: ids)) : Told ids op parts answer where
  whole := hwhole
  combined := by
    intro a _ hq
    cases hop.symm.trans hq
  failed := by
    intro e _ hq
    cases hop.symm.trans hq

theorem combine_of_torn (h : Cluster.isTorn parts = true) :
    Cluster.combine parts = .error (.engine .invalidBatch) := by
  rw [Cluster.isTorn] at h
  rw [Cluster.combine]
  cases hb : parts.filterMap (·.2.batch?) with
  | nil =>
    rw [hb] at h
    cases h
  | cons b bs =>
    rw [hb] at h
    obtain ⟨i, hi, -⟩ := (Option.any_eq_true ..).1 h
    simp only [Batch.join?, hi, Option.isSome_some, Bool.true_or, if_true]

/-- A query with all its parts has no answer of any kind if the parts are torn. -/
theorem Told.not_torn (h : Told ids (.query sql) parts a)
    (hwhole : (parts.map Prod.fst).Perm (.coordinator :: ids)) :
    Cluster.isTorn parts = false := by
  apply Bool.eq_false_iff.2
  intro htorn
  cases a with
  | ok a =>
    have hcombine := h.combined a rfl rfl
    rw [combine_of_torn htorn] at hcombine
    cases hcombine
  | error e =>
    rcases h.failed e rfl rfl with hparts | ⟨-, -, -, hnot⟩ | ⟨hmissing, -⟩
    · rw [hparts] at hwhole
      cases hwhole.symm.eq_nil
    · cases htorn.symm.trans hnot
    · exact hmissing hwhole

/-- Where there are partial results, they can only fail to go together. -/
theorem combine_eq_error (hne : parts ≠ []) (hrows : ∀ x ∈ parts, x.2.batch?.isSome = true)
    (h : Cluster.combine parts = .error e) : e = .engine .invalidBatch := by
  cases parts with
  | nil => exact absurd rfl hne
  | cons x parts =>
    obtain ⟨b, hb⟩ := Option.isSome_iff_exists.1 (hrows x (List.mem_cons_self ..))
    simp only [Cluster.combine, List.filterMap_cons, hb] at h
    split at h
    · cases h
    · exact (Except.error.inj h).symm

namespace Doing

/-- As long as a call has failed, some part is missing. -/
theorem not_perm_of_incomplete
    (hids : (ParticipantId.coordinator :: ids).Pairwise (·.number < ·.number))
    (h : Doing ids op parts (.queried issued) r) (hop : op.isQuery = true)
    (hall : r.allEnded = true) (hno : ¬ (Outcome.ofEnded r.ended).isComplete = true) :
    ¬ (parts.map Prod.fst).Perm (.coordinator :: ids) ∧
      (Outcome.ofEnded r.ended).failures.map Failure.participant =
        (.coordinator :: ids).filter (· ∉ parts.map Prod.fst) := by
  have hcalled : op.called ids = .coordinator :: ids := if_pos hop
  have hended := h.perm_called hall
  rw [hcalled] at hended
  have hnames := Outcome.failures_eq hids hended
  rw [show r.ended.filterMap Outcome.completed? = parts from h.parts.symm] at hnames
  refine ⟨fun hperm => hno ?_, hnames⟩
  have hnone : (ParticipantId.coordinator :: ids).filter (· ∉ parts.map Prod.fst) = [] := by
    rw [List.filter_eq_nil_iff]
    intro p hp
    rw [decide_eq_true_eq, not_not]
    exact hperm.mem_iff.2 hp
  rw [hnone, List.map_eq_nil_iff] at hnames
  rw [Outcome.isComplete, hnames]
  rfl

theorem told_queried (hids : (ParticipantId.coordinator :: ids).Pairwise (·.number < ·.number))
    (h : Doing ids op parts (.queried issued) r) (hall : r.allEnded = true)
    (hgoes : Cluster.breaksOff (.ofEnded r.ended) (.queried issued) = false) :
    Told ids op parts ((Outcome.ofEnded r.ended).result "sql" >>= Cluster.combine) := by
  have hparts : parts = r.ended.filterMap Outcome.completed? := h.parts
  have hserves := h.serves
  cases op with
  | query sql =>
    by_cases hcomplete : (Outcome.ofEnded r.ended).isComplete = true
    · have hperm := h.perm_whole hall hcomplete rfl
      have hanswer : (Outcome.ofEnded r.ended).result "sql" >>= Cluster.combine =
          Cluster.combine parts := by
        rw [Outcome.result_of_complete hcomplete, Except.ok_bind, hparts]
        rfl
      rw [hanswer]
      constructor
      · intro _ _ _
        exact hperm
      · intro a ha _
        exact ha
      · intro e he _
        -- the coordinator's own part is there, so there is something to combine
        have hne : parts ≠ [] := by
          rintro rfl
          cases hperm.symm.eq_nil
        have hwhole : Cluster.isTorn parts = false := by
          rw [Cluster.breaksOff, hcomplete, Bool.true_and] at hgoes
          rw [hparts]
          exact hgoes
        exact .inr (.inl ⟨hperm, he, combine_eq_error hne (h.brought rfl) he, hwhole⟩)
    · rw [Outcome.result_of_incomplete hcomplete, Except.error_bind]
      constructor
      · intro a ha
        cases ha
      · intro a ha
        cases ha
      · intro e he _
        cases he
        obtain ⟨hmissing, hnames⟩ := h.not_perm_of_incomplete hids rfl hall hcomplete
        exact .inr (.inr ⟨hmissing, _, rfl, hnames⟩)
  | _ => cases hserves

theorem told (hids : (ParticipantId.coordinator :: ids).Pairwise (·.number < ·.number))
    (h : Doing ids op parts goal r) (hall : r.allEnded = true)
    (hgoes : Cluster.breaksOff (.ofEnded r.ended) goal = false) (c : Cluster) :
    Told ids op parts (c.conclude (.ofEnded r.ended) goal).2.answer := by
  have hserves := h.serves
  cases goal with
  | launched => cases hserves
  | queried issued => exact h.told_queried hids hall hgoes
  | dropped name =>
    cases op with
    | drop name' =>
      apply Told.of_plain rfl
      intro a _ hop
      exact absurd rfl (hop name')
    | _ => cases hserves
  | created name =>
    cases op with
    | create name' batch =>
      apply Told.of_plain rfl
      intro a ha _
      have hresult : ((Outcome.ofEnded r.ended).result "create table").map (fun _ => Answer.done) =
          .ok a := by
        rw [← ha, Cluster.conclude]
        split <;> rfl
      obtain ⟨ps, hps, -⟩ := Except.map_eq_ok_iff.1 hresult
      exact h.perm_whole hall (Outcome.isComplete_of_result hps) rfl
    | _ => cases hserves
  | loaded name result =>
    cases op with
    | createFromSource table =>
      apply Told.of_plain rfl
      intro a ha _
      have hresult : (do
          Cluster.lift result
          ((Outcome.ofEnded r.ended).result "create table").map fun _ => Answer.done) = .ok a := by
        rw [← ha, Cluster.conclude]
        split <;> rfl
      obtain ⟨u, hu, hresult⟩ := Except.bind_eq_ok_iff.1 hresult
      obtain ⟨ps, hps, -⟩ := Except.map_eq_ok_iff.1 hresult
      rw [Cluster.lift_eq_ok_iff] at hu
      subst hu
      exact h.perm_whole hall (Outcome.isComplete_of_result hps) rfl
    | _ => cases hserves

end Doing

namespace Going

theorem fits_atStage (h : ∀ c ∈ r.calls, c.Fits ids) (hi : r.calls[i]? = some lc)
    (hs : ∀ result, lc.call.task = .own result → s = .ended) :
    ∀ c ∈ r.calls.modify i fun lc => { lc with stage := s }, c.Fits ids := by
  intro c hc
  obtain ⟨j, hj⟩ := List.getElem?_of_mem hc
  obtain ⟨lc', hj', rfl⟩ := Asking.getElem?_atStage.1 hj
  have hfits := h lc' (List.mem_of_getElem? hj')
  split
  · next hij =>
    subst hij
    cases hi.symm.trans hj'
    exact ⟨fun result hr => .inr (hs result hr), hfits.ask⟩
  · exact hfits

theorem turn (h : Going ids op parts r) (hi : r.calls[i]? = some lc)
    (htask : lc.call.task = .ask ahead request) (hs : lc.stage ≠ .ended) (hs' : s ≠ .ended) :
    Going ids op parts (r.withStage i s) where
  fits := by
    apply fits_atStage h.fits hi
    intro result hown
    cases htask.symm.trans hown
  doing goal haim := (h.doing goal haim).turn hi hs hs'
  told := h.told

theorem fails (h : Going ids op parts r) (hi : r.calls[i]? = some lc) (hs : lc.stage ≠ .ended)
    (k : FailureKind) : Going ids op parts (r.ending i (.error k)) := by
  have haim : (r.ending i (.error k)).aim = r.aim := by
    rw [Asking.ending_eq hi]
    rfl
  constructor
  · rw [Asking.calls_ending]
    exact fits_atStage h.fits hi fun _ _ => rfl
  · intro goal hgoal
    rw [haim] at hgoal
    have hends := (h.doing goal hgoal).ends hi hs (x := .error k) (by intro a ha; cases ha)
    rw [← List.append_nil parts]
    exact hends
  · rw [haim]
    exact h.told

theorem comes (h : Going ids op parts r) (hi : r.calls[i]? = some lc) (hs : lc.stage ≠ .ended)
    (ha : lc.call.task.bringsRows = a.batch?.isSome) :
    Going ids op (parts ++ r.part i a) (r.ending i (.ok a)) := by
  have haim : (r.ending i (.ok a)).aim = r.aim := by
    rw [Asking.ending_eq hi]
    rfl
  constructor
  · rw [Asking.calls_ending]
    exact fits_atStage h.fits hi fun _ _ => rfl
  · intro goal hgoal
    rw [haim] at hgoal
    have hpart : r.part i a = [(lc.call.participant, .ok a)].filterMap Outcome.completed? := by
      simp only [Running.part, hgoal, hi]
      rfl
    rw [hpart]
    exact (h.doing goal hgoal).ends hi hs fun b hb => by cases hb; exact ha
  · intro b hb
    rw [haim] at hb
    have hpart : r.part i a = [] := by simp only [Running.part, hb]
    rw [hpart, List.append_nil]
    exact h.told b hb

end Going

/-- As a worker is found to have ended, calls that wait for it end one after another. -/
theorem Live.disconnect_induction {motive : Running → Prop} (h : motive r)
    (hends : ∀ r i lc seq, motive r → r.calls[i]? = some lc → lc.call.participant = p →
      lc.stage = .asked seq → motive (r.ending i (.error .disconnected))) :
    motive (disconnect p r) := by
  rw [disconnect]
  generalize List.range r.calls.length = is
  induction is generalizing r with
  | nil => exact h
  | cons i is ih =>
    rw [List.foldl_cons]
    apply ih
    split
    · next hwaiting =>
      obtain ⟨lc, hi, hlc⟩ := (Option.any_eq_true ..).1 hwaiting
      obtain ⟨hp, hstage⟩ := Bool.and_eq_true_iff.1 hlc
      split at hstage
      · next seq hs => exact hends r i lc seq h hi (of_decide_eq_true hp) hs
      · cases hstage
    · exact h

theorem Going.disconnect (h : Going ids op parts r) (p : ParticipantId) :
    Going ids op parts (Live.disconnect p r) := by
  apply Live.disconnect_induction h
  intro r i lc seq h hi _ hs
  exact h.fails hi (by rw [hs]; exact Stage.noConfusion) _

end ShardQuery
