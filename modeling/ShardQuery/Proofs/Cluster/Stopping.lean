import ShardQuery.Proofs.Cluster.Drain
import ShardQuery.Proofs.Cluster.Run

namespace ShardQuery

namespace Cluster

variable {c d : Cluster}

/-- What calls leave as it is, however a worker answers them. -/
structure Lasts (c d : Cluster) : Prop where
  members : d.members = c.members
  size : d.workers.length = c.workers.length

namespace Lasts

theorem refl (c : Cluster) : c.Lasts c := ⟨rfl, rfl⟩

theorem trans (h : c.Lasts d) (h' : d.Lasts e) : c.Lasts e :=
  ⟨h'.members.trans h.members, h'.size.trans h.size⟩

theorem ask (c : Cluster) (p : ParticipantId) (r : Request) : c.Lasts (c.ask p r).1 := by
  have hset : ∀ (w : Worker) (net : Interconnect), c.Lasts { c.withWorker p w with net } :=
    fun w net => ⟨rfl, List.length_set⟩
  unfold Cluster.ask
  split
  · exact .refl c
  · split
    · exact .refl c
    · dsimp only
      split
      · exact hset _ _
      · split
        · exact hset _ _
        · obtain ⟨net, result, hcollect, -⟩ := Live.collect_eq _ r
          rw [hcollect]
          exact hset _ _

theorem attend (c : Cluster) (call : Call) : c.Lasts (c.attend call).1 := by
  unfold Cluster.attend
  split
  · exact .refl c
  · split
    · exact .refl c
    · next d hd =>
      obtain ⟨net, rfl⟩ := Live.sendShare_eq hd
      have hlasts := ask { c with net } call.participant
      exact ⟨(hlasts _).members, (hlasts _).size⟩

theorem attendAll (c : Cluster) (calls : List Call) : c.Lasts (c.attendAll calls).1 := by
  induction calls generalizing c with
  | nil => exact .refl c
  | cons call calls ih =>
    rw [Launching.attendAll_cons]
    exact (attend c call).trans (ih _)

end Lasts

end Cluster

namespace Live

variable {l : Live}

theorem through_of_ready (hready : l.cluster.phase = .ready) {f : Live → Live}
    (hphase : (f l).cluster.phase = .ready) (hworkers : (f l).cluster.workers = l.cluster.workers) :
    l.through l.cluster.workers.length f = f l := by
  have hl : { l with cluster := { l.cluster with
      phase := .ready
      workers := l.cluster.workers.take l.cluster.workers.length } } = l := by
    rw [List.take_length, ← hready]
  rw [through, hl, hready, ← hphase, ← hworkers]

theorem begin_keeps (hsize : l.cluster.members.size = l.cluster.workers.length + 1)
    (op : Operation) : (op.begin l).cluster.phase = l.cluster.phase ∧
      (op.begin l).cluster.workers = l.cluster.workers := by
  have hplain : op.isQuery = false → (l.start op).cluster.phase = l.cluster.phase ∧
      (l.start op).cluster.workers = l.cluster.workers := by
    intro hop
    have hopens := Cluster.opens_start hsize hop
    generalize hs : l.cluster.start op = next at hopens
    cases op with
    | query sql => cases hop
    | _ =>
      simp only [start, hs]
      cases hopens <;> exact ⟨rfl, rfl⟩
  cases op with
  | query sql =>
    simp only [Operation.begin, draft, Cluster.draft]
    cases l.cluster.ready "sql" with
    | error e => exact ⟨rfl, rfl⟩
    | ok u => cases l.cluster.own.prepare sql <;> exact ⟨rfl, rfl⟩
  | _ => exact hplain rfl

theorem issue_keeps (l : Live) (o : Nat) : (l.issue o).cluster.phase = l.cluster.phase ∧
    (l.issue o).cluster.workers = l.cluster.workers := by
  unfold issue
  split
  · exact ⟨rfl, rfl⟩
  · dsimp only
    split <;> exact ⟨rfl, rfl⟩

end Live

namespace Halting

variable {c : Cluster} {t : Halting}

namespace Kept

theorem phase_of_not_marked (h : Kept c t) (hm : t.isMarked = false) :
    t.live.cluster.phase = .ready := by
  apply h.phase.resolve_right
  intro hstopped
  rw [isMarked, hstopped] at hm
  cases hm

theorem length_ids (h : Kept c t) : c.workerIds.length = t.live.cluster.workers.length := by
  rw [c.length_workerIds, h.size]

/-- Before the cluster is marked, operations begin as if nobody would stop it. -/
theorem live_begin (h : Kept c t) (hc : c.Formed) (hm : t.isMarked = false) (op : Operation) :
    ((t.enter op).begin t.entered.length).live = op.begin t.live := by
  have hready := h.phase_of_not_marked hm
  obtain ⟨hlisted, hhosted⟩ := h.unmarked hready
  have hsize : t.live.cluster.members.size = t.live.cluster.workers.length + 1 := by
    rw [h.members, h.size, hc.size]
  have henter : t.enter op = { t with entered := t.entered ++ [(op, c.workerIds)] } := by
    have hparticipants : t.ready op.label = .ok c.workerIds := by
      rw [Halting.ready, Cluster.ready, if_pos hready, Except.ok_bind, hlisted, hhosted, hsize,
        h.length_ids]
      simp
    rw [Halting.enter, hparticipants]
  obtain ⟨hphase, hworkers⟩ := Live.begin_keeps hsize op
  rw [henter, Halting.begin]
  simp only [List.getElem?_concat_length, h.length_ids]
  exact Live.through_of_ready hready (hphase.trans hready) hworkers

theorem live_issue (h : Kept c t) (hm : t.isMarked = false) (o : Nat) :
    (t.issue o).live = t.live.issue o := by
  have hready := h.phase_of_not_marked hm
  obtain ⟨hphase, hworkers⟩ := t.live.issue_keeps o
  unfold Halting.issue
  split
  · next op ps hb =>
    rw [h.workers_of_begun hb, h.length_ids]
    exact Live.through_of_ready (f := (·.issue o)) hready (hphase.trans hready) hworkers
  · next hb =>
    cases hd : t.live.drafts.lookup o with
    | none => simp only [Live.issue, hd]
    | some d =>
      obtain ⟨-, -, -, -, sql, hbegun⟩ := h.slot_of_draft hd
      cases hb.symm.trans hbegun

/-- The steps of stopping, in a row, do what is done when a cluster is stopped at once. -/
theorem live_stopping (h : Kept c t) (hc : c.Formed) (hm : t.isMarked = false) :
    (t.steps (stopping c)).live = t.live.stop := by
  have hready := h.phase_of_not_marked hm
  have hmark : t.mark =
      { t with live := { t.live with cluster := { t.live.cluster with phase := .stopped } } } := by
    rw [Halting.mark, hm]
    rfl
  have hkills := h.mark.kills hc (by rw [hmark]; rfl)
  have hstopping : t.steps (stopping c) =
      (t.mark.steps (.unlist :: c.workerIds.map .kill)).release :=
    t.mark.steps_append (.unlist :: c.workerIds.map .kill) [.release]
  have hphase : t.live.cluster.phase ≠ .stopped := by
    rw [hready]
    intro he
    cases he
  rw [hstopping, hkills, hmark, Live.stop, if_neg hphase, Cluster.stop, if_neg hphase]
  rfl

theorem phase_conclude (h : Kept c t) (o : Nat) :
    (t.live.conclude o).cluster.phase = t.live.cluster.phase := by
  cases hr : t.live.op? o with
  | none => simp only [Live.conclude, hr]
  | some r =>
    obtain ⟨op, -, hg⟩ := h.slot_of_op? hr
    simp only [Live.conclude, hr]
    split
    · rfl
    · cases haim : r.aim with
      | give a => rfl
      | conclude goal =>
        obtain ⟨⟨own, net, hcluster⟩, -⟩ :=
          t.live.cluster.conclude_spec (.ofEnded r.ended) (hg.doing goal haim).serves
        simp only [hcluster]
        split
        · rfl
        · split <;> rfl

theorem phase_work (h : Kept c t) (e : Event) :
    (t.work e).live.cluster.phase = t.live.cluster.phase := by
  unfold Halting.work
  split
  · next he =>
    by_cases hend : ∃ o, e = .conclude o
    · obtain ⟨o, rfl⟩ := hend
      exact h.phase_conclude o
    · exact (Live.goes h.numbers he fun o ho => hend ⟨o, ho⟩).phase
  · rfl

theorem isMarked_step (h : Kept c t) (hm : t.isMarked = true) (a : Action) :
    (t.step a).isMarked = true := by
  have hphase : ∀ t' : Halting, t'.live.cluster.phase = t.live.cluster.phase →
      t'.isMarked = true := by
    intro t' he
    rw [isMarked, he]
    exact hm
  apply hphase
  cases a with
  | enter op =>
    simp only [Halting.step, Halting.enter]
    split <;> rfl
  | begin k =>
    simp only [Halting.step, Halting.begin]
    split <;> rfl
  | issue o =>
    simp only [Halting.step, Halting.issue]
    split <;> rfl
  | work e => exact h.phase_work e
  | mark => simp only [Halting.step, Halting.mark, hm, if_true]
  | unlist =>
    simp only [Halting.step, Halting.unlist]
    split <;> rfl
  | kill p =>
    simp only [Halting.step, Halting.kill]
    split <;> rfl
  | release =>
    simp only [Halting.step, Halting.release]
    split <;> rfl
  | store files => rfl

theorem isMarked_steps (h : Kept c t) (hc : c.Formed) (hm : t.isMarked = true)
    (actions : List Action) : (t.steps actions).isMarked = true := by
  induction actions generalizing t with
  | nil => exact hm
  | cons a actions ih => exact ih (h.step hc a) (h.isMarked_step hm a)

end Kept

theorem ready_eq_stopped (hm : t.isMarked = true) (label : String) :
    t.ready label = .error (.notReady label .stopped) := by
  have hstopped : t.live.cluster.phase = .stopped := of_decide_eq_true hm
  rw [ready, Cluster.ready, hstopped]
  rfl

/-- What holds of a cluster at any point of its work and of its end. -/
structure Whole (c : Cluster) (t : Halting) : Prop where
  /-- Each operation goes on with all workers. -/
  begun : ∀ o op ps, t.begun.lookup o = some (op, ps) → ps = c.workerIds
  once : ∀ o, (t.live.answers.filter (·.1 = o)).length ≤ 1
  /-- A success is that of all participants, and the rows of a query are those of all parts. -/
  succeeded : ∀ o a, (o, .ok a) ∈ t.live.answers →
    ∃ op, t.begun.lookup o = some (op, c.workerIds) ∧
      ((∀ name, op ≠ .drop name) →
        ((t.parts o).map Prod.fst).Perm (.coordinator :: c.workerIds) ∧
          c.ensureCovered op.label (t.parts o).length = .ok ()) ∧
      (op.isQuery = true → Cluster.combine (t.parts o) = .ok a)
  /-- A query that fails after its own part was done names the workers whose part is missing. -/
  failed : ∀ o sql e, (o, .error e) ∈ t.live.answers →
    t.begun.lookup o = some (.query sql, c.workerIds) →
      .coordinator ∈ (t.parts o).map Prod.fst →
        ¬ ((t.parts o).map Prod.fst).Perm (.coordinator :: c.workerIds) →
          ∃ fs, e = .barrierFailed "sql" fs ∧ fs.map Failure.participant =
            c.workerIds.filter (· ∉ (t.parts o).map Prod.fst)
  /-- If none is missing, the parts do not go together: their tables changed as the query ran. -/
  unjoined : ∀ o sql e, (o, .error e) ∈ t.live.answers →
    t.begun.lookup o = some (.query sql, c.workerIds) →
      ((t.parts o).map Prod.fst).Perm (.coordinator :: c.workerIds) →
        Cluster.combine (t.parts o) = .error e ∧ e = .engine .invalidBatch
  torn : ∀ o, t.Torn c o → t.live.answer? o = none
  /-- An operation that comes once the phase is marked leaves nothing but its refusal. -/
  refused : t.isMarked = true → ∀ op, t.enter op =
    { t with live := { t.live with
        begun := t.live.begun + 1
        answers := t.live.answers ++ [(t.live.begun, .error (.notReady op.label .stopped))] } }
  consulted : t.isMarked = true →
    t.tableNames = .error (.notReady "list tables" .stopped) ∧
      (∀ name, t.describe name = .error (.notReady "describe table" .stopped)) ∧
      ∀ sql detailed, t.explain sql detailed = .error (.notReady "explain" .stopped)
  stays : t.isMarked = true → ∀ more, (t.steps more).isMarked = true
  again : t.isMarked = true → t.mark = t
  /-- An operation that was let in can be brought to its answer, unless its parts are torn. -/
  returns : t.isMarked = true → ∀ o op ps, t.begun.lookup o = some (op, ps) → t.Settles c o

theorem Kept.told (h : Kept c t) (ha : (o, a) ∈ t.live.answers)
    (hb : t.begun.lookup o = some (op, c.workerIds)) : Told c.workerIds op (t.parts o) a := by
  rcases h.slot_of_answer ha with ⟨hnone, -⟩ | ⟨op', hb', htold⟩
  · cases hnone.symm.trans hb
  · cases hb.symm.trans hb'
    exact htold

theorem Kept.unanswered_of_torn (h : Kept c t) (htorn : t.Torn c o) : t.live.answer? o = none := by
  obtain ⟨sql, hb⟩ := htorn.query
  cases hanswer : t.live.answer? o with
  | none => rfl
  | some a =>
    obtain ⟨before, after, hsplit, -⟩ := List.lookup_eq_some_iff.1 hanswer
    have hmem : (o, a) ∈ t.live.answers := by
      rw [hsplit]
      exact List.mem_append_right _ (List.mem_cons_self ..)
    have hnot := (h.told hmem hb).not_torn htorn.whole
    cases htorn.narrow.symm.trans hnot

theorem Kept.length_answers_le (h : Kept c t) (o : Nat) :
    (t.live.answers.filter (·.1 = o)).length ≤ 1 := by
  have hlen : (t.slot o).answers.length = (t.live.answers.filter (·.1 = o)).length :=
    List.length_map ..
  rw [← hlen]
  have hsound := h.slots o
  generalize t.slot o = s at hsound
  cases hsound <;> simp [Slot.unused]

theorem Kept.whole (h : Kept c t) (hc : c.Formed) : Whole c t where
  begun o op ps hb := h.workers_of_begun hb
  once o := h.length_answers_le o
  succeeded o a ha := by
    rcases h.slot_of_answer ha with ⟨-, label, phase, hrefused⟩ | ⟨op, hb, htold⟩
    · cases hrefused
    · refine ⟨op, hb, ?_, htold.combined a rfl⟩
      intro hop
      have hperm := htold.whole a rfl hop
      refine ⟨hperm, ?_⟩
      have hlen := hperm.length_eq
      rw [List.length_map, List.length_cons, c.length_workerIds, ← hc.size] at hlen
      rw [Cluster.ensureCovered, if_pos hlen]
  failed o sql e he hb hown hmissing := by
    rcases (h.told he hb).failed e rfl rfl with hparts | ⟨hperm, -⟩ | ⟨-, fs, hfs, hnames⟩
    · rw [hparts] at hown
      cases hown
    · exact absurd hperm hmissing
    · refine ⟨fs, hfs, ?_⟩
      rw [hnames, List.filter_cons, if_neg (by simpa using hown)]
  unjoined o sql e he hb hperm := by
    rcases (h.told he hb).failed e rfl rfl with hparts | ⟨-, hcombine, he, -⟩ | ⟨hmissing, -⟩
    · rw [hparts] at hperm
      cases hperm.symm.eq_nil
    · exact ⟨hcombine, he⟩
    · exact absurd hperm hmissing
  torn o htorn := h.unanswered_of_torn htorn
  refused hm op := by
    rw [Halting.enter, ready_eq_stopped hm]
  consulted hm := by
    rw [tableNames, ready_eq_stopped hm]
    refine ⟨rfl, ?_, ?_⟩
    · intro name
      rw [describe, ready_eq_stopped hm]
      rfl
    · intro sql detailed
      rw [explain, ready_eq_stopped hm]
      rfl
  stays hm more := h.isMarked_steps hc hm more
  again hm := by
    rw [Halting.mark, if_pos hm]
  returns hm o op ps hb := h.settles hc hm hb

/-- A query whose table is replaced by one of fewer columns once its own part is done. -/
def replaced : List Action :=
  [.enter (.create "t" ⟨[⟨"n", .boolean, true⟩, ⟨"m", .boolean, true⟩], []⟩), .begin 0,
    .work (.prepare 0 0), .work (.send 0 0), .work (.serve 0), .work (.receive 0),
    .work (.conclude 0), .enter (.query "SELECT * FROM t"), .begin 0, .issue 1, .issue 1,
    .work (.own 1 0), .enter (.create "t" ⟨[⟨"n", .boolean, true⟩], []⟩), .begin 0,
    .work (.prepare 2 0), .work (.send 2 0), .work (.serve 0), .work (.receive 0),
    .work (.conclude 2), .work (.prepare 1 1), .work (.send 1 1), .work (.serve 0),
    .work (.deliver 0), .work (.receive 0), .work (.pull 1 1), .work (.conclude 1)]

-- All have done their part in the query, and it is never answered.
example : ((Cluster.run .default 1 [] .empty).map fun c =>
    (((idle c).steps replaced).live.answers.map Prod.fst,
      (((idle c).steps replaced).parts 1).map Prod.fst)).toOption =
    some ([0, 2], [.coordinator, ⟨1⟩]) := by decide +kernel

end Halting

end ShardQuery
