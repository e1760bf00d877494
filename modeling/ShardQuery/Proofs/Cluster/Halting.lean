import ShardQuery.Proofs.Cluster.Admission

namespace ShardQuery

open History

namespace Cluster

/-- A ready cluster with all its members. -/
structure Formed (c : Cluster) : Prop where
  ready : c.phase = .ready
  size : c.members.size = c.workers.length + 1
  narrow : c.workers.length < UInt32.size

/-- The participants are told apart by their numbers. -/
theorem Formed.pairwise_ids {c : Cluster} (h : c.Formed) :
    (ParticipantId.coordinator :: c.workerIds).Pairwise (·.number < ·.number) := by
  rw [workerIds_eq h.narrow]
  constructor
  · intro p hp
    obtain ⟨i, -, rfl⟩ := List.mem_map.1 hp
    exact Nat.succ_pos i
  · rw [List.pairwise_map]
    exact List.pairwise_lt_range.imp Nat.succ_lt_succ

end Cluster

/-- What is known of one number for operations. -/
structure Slot where
  draft : Option Draft
  running : Option Running
  answers : List (Except ClusterError Answer)
  begun : Option (Operation × List ParticipantId)
  parts : List (ParticipantId × Answer)

/-- A number nobody has taken. -/
def Slot.unused : Slot := ⟨none, none, [], none, []⟩

/-- How an operation may stand. -/
inductive Slot.Sound (ids : List ParticipantId) : Slot → Prop
  | unused : Sound ids .unused
  | refused (label : String) (phase : Phase) :
    Sound ids ⟨none, none, [.error (.notReady label phase)], none, []⟩
  | drafted (d : Draft) (sql : String) : Sound ids ⟨some d, none, [], some (.query sql, ids), []⟩
  | going {parts : List (ParticipantId × Answer)} (h : Going ids op parts r) :
    Sound ids ⟨none, some r, [], some (op, ids), parts⟩
  | told {parts : List (ParticipantId × Answer)} (h : Told ids op parts a) :
    Sound ids ⟨none, none, [a], some (op, ids), parts⟩

namespace Live

theorem through_draft (l : Live) (n : Nat) (sql : String) :
    l.through n (·.draft sql) =
      match l.cluster.own.prepare sql with
      | .ok p =>
        { l with
          cluster := { l.cluster with tokens := l.cluster.tokens.next.2 }
          begun := l.begun + 1
          drafts := l.drafts ++ [(l.begun, ⟨sql, p, []⟩)] }
      | .error x =>
        { l with
          cluster := { l.cluster with tokens := l.cluster.tokens.next.2 }
          begun := l.begun + 1
          answers := l.answers ++ [(l.begun, .error (.engine x))] } := by
  simp only [through, draft, Cluster.draft, Cluster.ready]
  cases l.cluster.own.prepare sql <;> rfl

theorem through_start {l : Live} {op : Operation}
    (hsize : l.cluster.members.size = l.cluster.workers.length + 1) (hop : op.isQuery = false) :
    ∃ own tokens, (∃ e, l.through l.cluster.workers.length op.begin =
        { l with
          cluster := { l.cluster with own, tokens }
          begun := l.begun + 1
          answers := l.answers ++ [(l.begun, .error e)] }) ∨
      ∃ calls goal, Opening l.cluster.workerIds op calls goal ∧
        l.through l.cluster.workers.length op.begin =
          { l with
            cluster := { l.cluster with own, tokens }
            begun := l.begun + 1
            running := l.running ++ [(l.begun, .fresh calls l.now (.conclude goal))] } := by
  have hbegin : op.begin = (·.start op) := by
    cases op with
    | query sql => cases hop
    | _ => rfl
  have hopens : Cluster.Opens { l.cluster with phase := .ready } op
      (Cluster.start { l.cluster with phase := .ready } op) :=
    Cluster.opens_start hsize hop
  generalize hs : Cluster.start { l.cluster with phase := .ready } op = next at hopens
  rw [hbegin, through, List.take_length]
  cases hopens with
  | refused own tokens e =>
    refine ⟨own, tokens, .inl ⟨e, ?_⟩⟩
    cases op with
    | query sql => cases hop
    | _ => simp only [start, hs]
  | waits own tokens h =>
    refine ⟨own, tokens, .inr ⟨_, _, h, ?_⟩⟩
    cases op with
    | query sql => cases hop
    | _ => simp only [start, hs]

theorem through_issue_next {l : Live} (hd : l.drafts.lookup o = some d)
    (hn : d.tokens.length < l.cluster.workers.length) : ∃ ds : List (Nat × Draft),
    (∀ m, ds.lookup m =
      if m = o then some { d with tokens := d.tokens ++ [l.cluster.tokens.next.1] }
      else l.drafts.lookup m) ∧
    l.through l.cluster.workers.length (·.issue o) =
      { l with
        cluster := { l.cluster with tokens := l.cluster.tokens.next.2 }
        drafts := ds } := by
  have hlookup := fun m => lookup_modify l.drafts o m fun d =>
    { d with tokens := d.tokens ++ [l.cluster.tokens.next.1] }
  refine ⟨_, fun m => (hlookup m).trans ?_, ?_⟩
  · split
    · next hm =>
      rw [hm, hd]
      rfl
    · rfl
  · rw [through, List.take_length]
    simp only [issue, hd, if_pos hn]

theorem through_issue_last {l : Live} (hd : l.drafts.lookup o = some d)
    (hn : ¬ d.tokens.length < l.cluster.workers.length) :
    l.through l.cluster.workers.length (·.issue o) =
      { l with
        drafts := l.drafts.filter (·.1 ≠ o)
        running := l.running ++ [(o, .fresh (l.cluster.dispatch d).1 l.now
          (.conclude (l.cluster.dispatch d).2))] } := by
  rw [through, List.take_length]
  simp only [issue, hd, if_neg hn]
  rfl

theorem through_issue_none {l : Live} (hd : l.drafts.lookup o = none) :
    l.through l.cluster.workers.length (·.issue o) = l := by
  rw [through, List.take_length]
  simp only [issue, hd]

end Live

namespace Halting

def slot (t : Halting) (o : Nat) : Slot :=
  ⟨t.live.drafts.lookup o, t.live.op? o, only o t.live.answers, t.begun.lookup o, t.parts o⟩

/-- A cluster that is being stopped, or may be, as it came from a ready one. -/
structure Kept (c : Cluster) (t : Halting) : Prop where
  members : t.live.cluster.members = c.members
  size : t.live.cluster.workers.length = c.workers.length
  phase : t.live.cluster.phase = .ready ∨ t.live.cluster.phase = .stopped
  unmarked : t.live.cluster.phase = .ready → t.listed = c.workerIds ∧ t.hosted = true
  known : ∀ p ∈ c.workerIds, p ∈ t.listed ∨ p ∈ t.doomed
  seats : t.live.links.map (·.channel.worker) = c.workerIds
  entered : ∀ e ∈ t.entered, e.2 = c.workerIds
  numbers : (t.live.running.map Prod.fst).Nodup
  slots : ∀ o, (t.slot o).Sound c.workerIds
  later : ∀ o, t.live.begun ≤ o → t.slot o = .unused

/-- What stays of a cluster while its operations go on. -/
structure Steady (t t' : Halting) : Prop where
  members : t'.live.cluster.members = t.live.cluster.members
  size : t'.live.cluster.workers.length = t.live.cluster.workers.length
  phase : t'.live.cluster.phase = t.live.cluster.phase
  seats : t'.live.links.map (·.channel.worker) = t.live.links.map (·.channel.worker)
  listed : t'.listed = t.listed
  hosted : t'.hosted = t.hosted
  doomed : t'.doomed = t.doomed
  entered : ∀ e ∈ t'.entered, e ∈ t.entered

variable {c : Cluster} {t t' : Halting}

theorem parts_eq (t : Halting) (o : Nat) : t.parts o = only o t.done := rfl

namespace Kept

theorem idle (hready : c.phase = .ready) : Kept c (.idle c) where
  members := rfl
  size := rfl
  phase := .inl hready
  unmarked _ := ⟨rfl, rfl⟩
  known p hp := .inl hp
  seats := by
    rw [Halting.idle, Live.idle, List.map_map]
    exact List.map_id c.workerIds
  entered e he := by cases he
  numbers := List.nodup_nil
  slots o := .unused
  later o _ := rfl

theorem slot_of_op? (h : Kept c t) (hr : t.live.op? o = some r) : ∃ op,
    t.slot o = ⟨none, some r, [], some (op, c.workerIds), t.parts o⟩ ∧
      Going c.workerIds op (t.parts o) r := by
  have hsound := h.slots o
  have hrunning : (t.slot o).running = some r := hr
  have hparts : (t.slot o).parts = t.parts o := rfl
  generalize t.slot o = s at hsound hrunning hparts
  cases hsound with
  | going hg =>
    cases hrunning
    subst hparts
    exact ⟨_, rfl, hg⟩
  | _ => cases hrunning

theorem slot_of_draft (h : Kept c t) (hd : t.live.drafts.lookup o = some d) :
    t.slot o ≠ .unused ∧ t.live.running.lookup o = none ∧ only o t.live.answers = [] ∧
      only o t.done = [] ∧ ∃ sql, t.begun.lookup o = some (.query sql, c.workerIds) := by
  have hsound := h.slots o
  have hdraft : (t.slot o).draft = some d := hd
  generalize hslot : t.slot o = s at hsound hdraft
  cases hsound with
  | drafted d' sql =>
    injection hslot with _ hr ha hb hp
    exact ⟨(by intro he; cases he), hr, ha, hp, sql, hb⟩
  | _ => cases hdraft

theorem slot_of_answer (h : Kept c t) (ha : (o, a) ∈ t.live.answers) :
    (t.begun.lookup o = none ∧ ∃ label phase, a = .error (.notReady label phase)) ∨
      ∃ op, t.begun.lookup o = some (op, c.workerIds) ∧ Told c.workerIds op (t.parts o) a := by
  have hsound := h.slots o
  have hmem : a ∈ (t.slot o).answers :=
    List.mem_map.2 ⟨_, List.mem_filter.2 ⟨ha, decide_eq_true rfl⟩, rfl⟩
  have hbegun : (t.slot o).begun = t.begun.lookup o := rfl
  have hparts : (t.slot o).parts = t.parts o := rfl
  generalize t.slot o = s at hsound hmem hbegun hparts
  cases hsound with
  | refused label phase =>
    cases List.mem_singleton.1 hmem
    exact .inl ⟨hbegun.symm, label, phase, rfl⟩
  | told ht =>
    cases List.mem_singleton.1 hmem
    subst hparts
    exact .inr ⟨_, hbegun.symm, ht⟩
  | _ => cases hmem

theorem next (h : Kept c t) : t.live.drafts.lookup t.live.begun = none ∧
    t.live.running.lookup t.live.begun = none ∧ only t.live.begun t.live.answers = [] ∧
      t.begun.lookup t.live.begun = none ∧ only t.live.begun t.done = [] := by
  have hslot := h.later t.live.begun (Nat.le_refl _)
  injection hslot with hd hr ha hb hp
  exact ⟨hd, hr, ha, hb, hp⟩

theorem steady (h : Kept c t) (hs : t.Steady t')
    (hnumbers : (t'.live.running.map Prod.fst).Nodup) (hslots : ∀ o, (t'.slot o).Sound c.workerIds)
    (hlater : ∀ o, t'.live.begun ≤ o → t'.slot o = .unused) : Kept c t' where
  members := hs.members.trans h.members
  size := hs.size.trans h.size
  phase := by
    rw [hs.phase]
    exact h.phase
  unmarked := by
    rw [hs.phase, hs.listed, hs.hosted]
    exact h.unmarked
  known := by
    rw [hs.listed, hs.doomed]
    exact h.known
  seats := hs.seats.trans h.seats
  entered e he := h.entered e (hs.entered e he)
  numbers := hnumbers
  slots := hslots
  later := hlater

theorem slots_of (h : Kept c t) (hother : ∀ m, m ≠ o → t'.slot m = t.slot m)
    (hsame : (t'.slot o).Sound c.workerIds) : ∀ m, (t'.slot m).Sound c.workerIds := by
  intro m
  by_cases hm : m = o
  · rw [hm]
    exact hsame
  · rw [hother m hm]
    exact h.slots m

/-- The next number is taken, of which this is known from now on. -/
theorem takes (h : Kept c t) (hbegun : t'.live.begun = t.live.begun + 1) (hs : t.Steady t')
    (hnumbers : (t'.live.running.map Prod.fst).Nodup)
    (hother : ∀ m, m ≠ t.live.begun → t'.slot m = t.slot m)
    (hsame : (t'.slot t.live.begun).Sound c.workerIds) : Kept c t' := by
  apply h.steady hs hnumbers (h.slots_of hother hsame)
  intro o ho
  rw [hbegun] at ho
  rw [hother o (Nat.ne_of_gt ho)]
  exact h.later o (Nat.le_of_succ_le ho)

/-- An operation goes on, and all others are as before. -/
theorem changes (h : Kept c t) (hbegun : t'.live.begun = t.live.begun) (hs : t.Steady t')
    (hnumbers : (t'.live.running.map Prod.fst).Nodup) (ho : t.slot o ≠ .unused)
    (hother : ∀ m, m ≠ o → t'.slot m = t.slot m) (hsame : (t'.slot o).Sound c.workerIds) :
    Kept c t' := by
  apply h.steady hs hnumbers (h.slots_of hother hsame)
  intro m hm
  rw [hbegun] at hm
  have hunused := h.later m hm
  rw [hother m]
  · exact hunused
  · rintro rfl
    exact ho hunused

theorem ready_eq_error (he : t.ready label = .error e) :
    ∃ label phase, e = .notReady label phase := by
  unfold ready Cluster.ready at he
  split at he
  · rw [Except.ok_bind] at he
    split at he
    · cases he
    · cases he
      exact ⟨_, _, rfl⟩
  · cases he
    exact ⟨_, _, rfl⟩

theorem enter (h : Kept c t) (op : Operation) : Kept c (t.enter op) := by
  unfold Halting.enter
  split
  · next ps hps =>
    -- the phase was read together with the list
    obtain ⟨_, hready, hps⟩ := Except.bind_eq_ok_iff.1 hps
    have hphase : t.live.cluster.phase = .ready := by
      unfold Cluster.ready at hready
      split at hready
      · assumption
      · cases hready
    split at hps
    · cases hps
      exact { h with
        entered := by
          intro e he
          rcases List.mem_append.1 he with he | he
          · exact h.entered e he
          · cases List.mem_singleton.1 he
            exact (h.unmarked hphase).1 }
    · cases hps
  · next e he =>
    obtain ⟨label, phase, rfl⟩ := ready_eq_error he
    obtain ⟨hd, hr, ha, hb, hp⟩ := h.next
    refine h.takes rfl ⟨rfl, rfl, rfl, rfl, rfl, rfl, rfl, fun _ he => he⟩ h.numbers ?_ ?_
    · intro m hm
      simp [slot, Live.op?, parts_eq, only_append, Ne.symm hm]
    · simp only [slot, Live.op?, parts_eq, only_append, if_true, hd, hr, ha, hb, hp]
      exact .refused label phase

theorem nodup_snoc {rs : List (Nat × Running)} (hn : (rs.map Prod.fst).Nodup)
    (ho : rs.lookup o = none) (r : Running) : ((rs ++ [(o, r)]).map Prod.fst).Nodup := by
  rw [List.map_append, List.nodup_append]
  refine ⟨hn, List.nodup_singleton o, ?_⟩
  intro m hm n hn he
  cases List.mem_singleton.1 hn
  subst he
  obtain ⟨p, hp, rfl⟩ := List.mem_map.1 hm
  have hlook := List.lookup_eq_none_iff.1 ho p hp
  simp at hlook

theorem takes_error (h : Kept c t) {entered : List (Operation × List ParticipantId)}
    (hentered : ∀ e ∈ entered, e ∈ t.entered) {op : Operation} {e : ClusterError}
    (htold : Told c.workerIds op [] (.error e)) (own : Engine) (tokens : TokenIssuer) :
    Kept c { t with
      live := { t.live with
        cluster := { t.live.cluster with own, tokens }
        begun := t.live.begun + 1
        answers := t.live.answers ++ [(t.live.begun, .error e)] }
      entered
      begun := t.begun ++ [(t.live.begun, op, c.workerIds)] } := by
  obtain ⟨hd, hr, ha, hb, hp⟩ := h.next
  refine h.takes rfl ⟨rfl, rfl, rfl, rfl, rfl, rfl, rfl, hentered⟩ h.numbers ?_ ?_
  · intro m hm
    simp [slot, Live.op?, parts_eq, only_append, lookup_snoc, hm, Ne.symm hm]
  · simp only [slot, Live.op?, parts_eq, only_append, lookup_snoc, if_true, hd, hr, ha, hb, hp]
    exact .told htold

theorem takes_draft (h : Kept c t) {entered : List (Operation × List ParticipantId)}
    (hentered : ∀ e ∈ entered, e ∈ t.entered) (sql : String) (d : Draft) (tokens : TokenIssuer) :
    Kept c { t with
      live := { t.live with
        cluster := { t.live.cluster with tokens }
        begun := t.live.begun + 1
        drafts := t.live.drafts ++ [(t.live.begun, d)] }
      entered
      begun := t.begun ++ [(t.live.begun, .query sql, c.workerIds)] } := by
  obtain ⟨hd, hr, ha, hb, hp⟩ := h.next
  refine h.takes rfl ⟨rfl, rfl, rfl, rfl, rfl, rfl, rfl, hentered⟩ h.numbers ?_ ?_
  · intro m hm
    simp [slot, Live.op?, parts_eq, lookup_snoc, hm]
  · simp only [slot, Live.op?, parts_eq, lookup_snoc, if_true, hd, hr, ha, hb, hp]
    exact .drafted d sql

theorem takes_calls (h : Kept c t) {entered : List (Operation × List ParticipantId)}
    (hentered : ∀ e ∈ entered, e ∈ t.entered) {op : Operation} {calls : List Call} {goal : Goal}
    (hopening : Opening c.workerIds op calls goal) (own : Engine) (tokens : TokenIssuer) :
    Kept c { t with
      live := { t.live with
        cluster := { t.live.cluster with own, tokens }
        begun := t.live.begun + 1
        running := t.live.running ++
          [(t.live.begun, .fresh calls t.live.now (.conclude goal))] }
      entered
      begun := t.begun ++ [(t.live.begun, op, c.workerIds)]
      done := t.done ++ goal.ownPart.map (t.live.begun, ·) } := by
  obtain ⟨hd, hr, ha, hb, hp⟩ := h.next
  refine h.takes rfl ⟨rfl, rfl, rfl, rfl, rfl, rfl, rfl, hentered⟩ (nodup_snoc h.numbers hr _)
    ?_ ?_
  · intro m hm
    simp [slot, Live.op?, parts_eq, only_append_list, only_map, lookup_snoc, hm]
  · simp only [slot, Live.op?, parts_eq, only_append_list, only_map, lookup_snoc, if_true, hd, hr,
      ha, hb, hp]
    exact .going (hopening.going _)

theorem told_engine (ids : List ParticipantId) (op : Operation) (x : QueryError) :
    Told ids op [] (.error (.engine x)) where
  whole := by
    intro a ha
    cases ha
  combined := by
    intro a ha
    cases ha
  failed := by
    intro e he _
    cases he
    exact .inl rfl

theorem begin (h : Kept c t) (hsize : c.members.size = c.workers.length + 1) (k : Nat) :
    Kept c (t.begin k) := by
  unfold Halting.begin
  split
  · next op ps he =>
    obtain rfl : ps = c.workerIds := h.entered _ (List.mem_of_getElem? he)
    have hn : c.workerIds.length = t.live.cluster.workers.length := by
      rw [Cluster.length_workerIds, h.size]
    have hids : t.live.cluster.workerIds = c.workerIds := by
      rw [Cluster.workerIds, Cluster.workerIds, h.size]
    have herase : ∀ e ∈ t.entered.eraseIdx k, e ∈ t.entered := fun e => List.mem_of_mem_eraseIdx
    obtain ⟨hd, hr, ha, hb, hp⟩ := h.next
    cases hq : op.isQuery with
    | true =>
      cases op with
      | query sql =>
        have hbegin : (Operation.query sql).begin = (·.draft sql) := rfl
        rw [hbegin, t.live.through_draft]
        cases t.live.cluster.own.prepare sql with
        | ok p =>
          simp only [Live.ownPart, Live.op?, hr, List.append_nil]
          exact h.takes_draft herase sql _ _
        | error x =>
          simp only [Live.ownPart, Live.op?, hr, List.append_nil]
          exact h.takes_error herase (told_engine ..) _ _
      | _ => cases hq
    | false =>
      rw [hn]
      obtain ⟨own, tokens, ⟨e, hlive⟩ | ⟨calls, goal, hopening, hlive⟩⟩ :=
        Live.through_start (l := t.live) (by rw [h.members, h.size, hsize]) hq
      · rw [hlive]
        simp only [Live.ownPart, Live.op?, hr, List.append_nil]
        exact h.takes_error herase (.of_plain hq fun a ha => by cases ha) own tokens
      · rw [hlive]
        rw [hids] at hopening
        simp only [Live.ownPart, Live.op?, lookup_snoc, hr, if_true, Option.none_or]
        exact h.takes_calls herase hopening own tokens
  · exact h

theorem workers_of_begun (h : Kept c t) (hb : t.begun.lookup o = some (op, ps)) :
    ps = c.workerIds := by
  have hsound := h.slots o
  have hbegun : (t.slot o).begun = some (op, ps) := hb
  generalize t.slot o = s at hsound hbegun
  cases hsound <;> cases hbegun <;> rfl

theorem issue (h : Kept c t) (o : Nat) : Kept c (t.issue o) := by
  unfold Halting.issue
  split
  · next op ps hb =>
    have hn : ps.length = t.live.cluster.workers.length := by
      rw [h.workers_of_begun hb, Cluster.length_workerIds, h.size]
    have hids : t.live.cluster.workerIds = c.workerIds := by
      rw [Cluster.workerIds, Cluster.workerIds, h.size]
    rw [hn]
    cases hd : t.live.drafts.lookup o with
    | none =>
      rw [Live.through_issue_none hd]
      exact h
    | some d =>
      obtain ⟨hused, hr, ha, hp, sql, hb⟩ := h.slot_of_draft hd
      by_cases hlt : d.tokens.length < t.live.cluster.workers.length
      · obtain ⟨ds, hds, hissue⟩ := Live.through_issue_next hd hlt
        rw [hissue]
        refine h.changes rfl ⟨rfl, rfl, rfl, rfl, rfl, rfl, rfl, fun _ he => he⟩ h.numbers hused
          ?_ ?_
        · intro m hm
          simp only [slot, Live.op?, parts_eq, hds, if_neg hm]
        · simp only [slot, Live.op?, parts_eq, hds, if_true, hr, ha, hb, hp]
          exact .drafted _ sql
      · have hopening := Cluster.opening_dispatch (Nat.le_of_not_lt hlt) sql
        rw [hids] at hopening
        rw [Live.through_issue_last hd hlt]
        refine h.changes rfl ⟨rfl, rfl, rfl, rfl, rfl, rfl, rfl, fun _ he => he⟩
          (nodup_snoc h.numbers hr _) hused ?_ ?_
        · intro m hm
          simp only [slot, Live.op?, parts_eq, lookup_snoc, lookup_filter_ne, if_neg hm,
            Option.or_none]
        · simp only [slot, Live.op?, parts_eq, lookup_snoc, lookup_filter_ne, if_true, hr, ha, hb,
            hp]
          exact .going (hopening.going _)
  · exact h

theorem mark (h : Kept c t) : Kept c t.mark := by
  unfold Halting.mark
  split
  · exact h
  · exact { h with
      phase := .inr rfl
      unmarked := by
        intro hready
        cases hready }

theorem unlist (h : Kept c t) : Kept c t.unlist := by
  unfold Halting.unlist
  split
  · next hmarked =>
    exact { h with
      unmarked := by
        intro hready
        have hstopped : t.live.cluster.phase = .stopped := of_decide_eq_true hmarked
        cases hready.symm.trans hstopped
      known := by
        intro p hp
        right
        exact List.mem_append.2 (h.known p hp).symm }
  · exact h

theorem release (h : Kept c t) : Kept c t.release := by
  unfold Halting.release
  split
  · next hmarked =>
    exact { h with
      unmarked := by
        intro hready
        have hstopped : t.live.cluster.phase = .stopped := of_decide_eq_true hmarked
        cases hready.symm.trans hstopped }
  · exact h

theorem kill (h : Kept c t) (p : ParticipantId) : Kept c (t.kill p) := by
  unfold Halting.kill
  split
  · exact { h with
      size := by
        rw [← h.size]
        exact List.length_modify ..
      seats := by
        rw [← h.seats]
        exact Live.map_worker_modify _ _ fun k => rfl }
  · exact h

/-- An event at work brings each operation further, or leaves it as it is. -/
theorem advance (h : Kept c t) (hgoes : t.live.Goes l news) :
    Kept c { t with live := l, done := t.done ++ news } := by
  have hslot : ∀ o, ({ t with live := l, done := t.done ++ news } : Halting).slot o =
      ⟨t.live.drafts.lookup o, l.running.lookup o, only o t.live.answers, t.begun.lookup o,
        only o t.done ++ only o news⟩ := by
    intro o
    simp only [slot, Live.op?, parts_eq, only_append_list, hgoes.drafts, hgoes.answers]
  have hrest : ∀ o, t.live.op? o = none →
      ({ t with live := l, done := t.done ++ news } : Halting).slot o = t.slot o := by
    intro o ho
    obtain ⟨hr, hp⟩ := hgoes.advances.absent ho
    rw [hslot, hr, hp, List.append_nil]
    simp only [slot, ho, parts_eq]
  -- an operation under way goes on, and of any other number as much is known as before
  apply h.steady
  · exact ⟨hgoes.members, hgoes.size, hgoes.phase, hgoes.seats, rfl, rfl, rfl, fun _ he => he⟩
  · rw [hgoes.advances.numbers]
    exact h.numbers
  · intro o
    cases ho : t.live.op? o with
    | none =>
      rw [hrest o ho]
      exact h.slots o
    | some r =>
      obtain ⟨op, hs, hg⟩ := h.slot_of_op? ho
      obtain ⟨r', hr', -, hg'⟩ := hgoes.advances.going ho hg
      injection hs with hd _ ha hb hp
      rw [hslot, hr', hd, ha, hb]
      exact .going hg'
  · intro o ho
    rw [hgoes.begun] at ho
    have hunused := h.later o ho
    rw [hrest o]
    · exact hunused
    · injection hunused

theorem used (h : Kept c t) (hr : t.live.op? o = some r) : t.slot o ≠ .unused := by
  obtain ⟨op, hs, -⟩ := h.slot_of_op? hr
  rw [hs]
  intro he
  cases he

theorem answer (h : Kept c t) (hr : t.live.op? o = some r)
    (hb : t.begun.lookup o = some (op, c.workerIds)) (htold : Told c.workerIds op (t.parts o) a)
    (own : Engine) (net : Interconnect) :
    Kept c { t with
      live := ({ t.live with
        cluster := { t.live.cluster with own, net } } : Live).answer o a } := by
  obtain ⟨_, hs, -⟩ := h.slot_of_op? hr
  injection hs with hd _ ha
  refine h.changes rfl ⟨rfl, rfl, rfl, rfl, rfl, rfl, rfl, fun _ he => he⟩
    (h.numbers.sublist (List.filter_sublist.map Prod.fst)) (h.used hr) ?_ ?_
  · intro m hm
    simp only [slot, Live.op?, Live.answer, parts_eq, only_append, lookup_filter_ne, if_neg hm,
      if_neg (Ne.symm hm)]
  · simp only [slot, Live.op?, Live.answer, parts_eq, only_append, lookup_filter_ne, if_true, hd,
      ha, hb]
    exact .told htold

theorem undo (h : Kept c t) (hr : t.live.op? o = some r)
    (hb : t.begun.lookup o = some (op, c.workerIds)) (hg : Going c.workerIds op (t.parts o) r')
    (own : Engine) (net : Interconnect) :
    Kept c { t with
      live := ({ t.live with cluster := { t.live.cluster with own, net } } : Live).modifyOp o
        fun _ => r' } := by
  obtain ⟨_, hs, -⟩ := h.slot_of_op? hr
  injection hs with hd _ ha
  refine h.changes rfl ⟨rfl, rfl, rfl, rfl, rfl, rfl, rfl, fun _ he => he⟩ ?_ (h.used hr) ?_ ?_
  · rw [Live.numbers_modifyOp]
    exact h.numbers
  · intro m hm
    have hop := Live.op?_modifyOp { t.live with cluster := { t.live.cluster with own, net } } o
      (fun _ => r') m
    rw [if_neg hm] at hop
    simp only [slot, hop]
    rfl
  · have hop := Live.op?_replaced
      (l := { t.live with cluster := { t.live.cluster with own, net } }) hr r'
    simp only [slot, hop]
    show (Slot.mk (t.live.drafts.lookup o) (some r') (only o t.live.answers) (t.begun.lookup o)
      (t.parts o)).Sound c.workerIds
    rw [hd, ha, hb]
    exact .going hg

theorem conclude (h : Kept c t) (hc : c.Formed) (o : Nat) :
    Kept c { t with live := t.live.conclude o } := by
  cases hr : t.live.op? o with
  | none =>
    simp only [Live.conclude, hr]
    exact h
  | some r =>
    obtain ⟨op, hs, hg⟩ := h.slot_of_op? hr
    have hb : t.begun.lookup o = some (op, c.workerIds) := by injection hs
    cases hall : r.allEnded with
    | false =>
      simp only [Live.conclude, hr, hall]
      exact h
    | true =>
      cases haim : r.aim with
      | give a =>
        simp only [Live.conclude, hr, hall, haim]
        exact h.answer hr hb (hg.told a haim) t.live.cluster.own t.live.cluster.net
      | conclude goal =>
        have hdoing := hg.doing goal haim
        obtain ⟨⟨own, net, hcluster⟩, hundo⟩ :=
          t.live.cluster.conclude_spec (.ofEnded r.ended) hdoing.serves
        have hworkers : t.live.cluster.workerIds = c.workerIds := by
          rw [Cluster.workerIds, Cluster.workerIds, h.size]
        rw [hworkers] at hundo
        simp only [Live.conclude, hr, hall, haim, hcluster, Bool.not_true, Bool.false_eq_true,
          if_false]
        split
        · exact h
        · next hgoes =>
          have htold := hdoing.told hc.pairwise_ids hall (Bool.eq_false_iff.2 hgoes) t.live.cluster
          split
          · exact h.answer hr hb htold own net
          · exact h.undo hr hb (htold.going (fun call hc _ _ _ => hundo call hc) _) own net

theorem work (h : Kept c t) (hc : c.Formed) (e : Event) : Kept c (t.work e) := by
  unfold Halting.work
  split
  · next he =>
    by_cases hend : ∃ o, e = .conclude o
    · obtain ⟨o, rfl⟩ := hend
      have hdone : t.live.completed (.conclude o) = [] := rfl
      rw [hdone, List.append_nil]
      exact h.conclude hc o
    · exact h.advance (Live.goes h.numbers he fun o ho => hend ⟨o, ho⟩)
  · exact h

theorem step (h : Kept c t) (hc : c.Formed) (a : Action) : Kept c (t.step a) := by
  cases a with
  | enter op => exact h.enter op
  | begin k => exact h.begin hc.size k
  | issue o => exact h.issue o
  | work e => exact h.work hc e
  | mark => exact h.mark
  | unlist => exact h.unlist
  | kill p => exact h.kill p
  | release => exact h.release
  | store files => exact { h with }

theorem steps (h : Kept c t) (hc : c.Formed) (actions : List Action) :
    Kept c (t.steps actions) := by
  induction actions generalizing t with
  | nil => exact h
  | cons a actions ih => exact ih (h.step hc a)

end Kept

end Halting

end ShardQuery
