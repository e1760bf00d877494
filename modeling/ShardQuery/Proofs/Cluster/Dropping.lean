import ShardQuery.Proofs.Cluster.Agreement
import ShardQuery.Proofs.Cluster.Barrier

namespace ShardQuery

namespace Outcome

variable {α : Type u} {r : Nat → Except FailureKind α}

theorem failures_eq_of_perm {ended : List (ParticipantId × Except FailureKind α)}
    {fs : List Failure} (hfs : fs.Pairwise (·.participant.number < ·.participant.number))
    (hperm : (ended.filterMap failure?).Perm fs) : (ofEnded ended).failures = fs := by
  have hall : (ofEnded ended).failures.Perm fs := (List.mergeSort_perm ..).trans hperm
  have hnodup : (fs.map (·.participant.number)).Nodup :=
    List.pairwise_map.2 (hfs.imp Nat.ne_of_lt)
  refine hall.eq_of_pairwise ?_ (pairwise_mergeSort_key (fun f : Failure => f.participant.number) _)
    (hfs.imp Nat.le_of_lt)
  intro f g hf hg hfg hgf
  exact List.inj_on_of_nodup_map hnodup (hall.mem_iff.1 hf) hg (Nat.le_antisymm hfg hgf)

theorem participant_of_failure? {e : ParticipantId × Except FailureKind α}
    (h : failure? e = some f) : f.participant = e.1 := by
  obtain ⟨p, r⟩ := e
  cases r with
  | ok a => cases h
  | error kind =>
    cases h
    rfl

/-- Whatever the order of the calls, their failures are reported by number. -/
theorem failures_inOrder {ks js : List Nat} (hks : ks.Pairwise (· < ·)) (hjs : js.Perm ks) :
    (ofEnded (inOrder js r)).failures = ks.filterMap fun k => failure? (⟨k⟩, r k) := by
  apply failures_eq_of_perm
  · refine List.pairwise_filterMap.2 (hks.imp fun hjk f hf g hg => ?_)
    rw [participant_of_failure? hf, participant_of_failure? hg]
    exact hjk
  · rw [inOrder, List.filterMap_map]
    exact hjs.filterMap _

end Outcome

/-- What an engine is after it gave up a table that it need not have had. -/
structure Engine.Forgoes (name : String) (e e' : Engine) : Prop where
  gone : e'.holds name = false
  others : ∀ other, other ≠ name → e'.table other = e.table other
  rest : e' = { e with tables := e'.tables }

theorem Engine.forgoes_without (e : Engine) (name : String) : e.Forgoes name (e.without name) where
  gone := by simp
  others other hne := by simp [table, hne]
  rest := rfl

namespace Cluster

/-- The workers that do not have a table, in the order of their ids. -/
def lacking (c : Cluster) (name : String) : List ParticipantId :=
  c.workerIds.filter fun p => !((c.worker? p).bind Worker.engine).any (·.holds name)

/-- How a participant reports that it does not have a table. -/
def absence (name : String) (p : ParticipantId) : Failure :=
  ⟨p, .rejected (QueryError.tableNotFound name).message⟩

variable {c d : Cluster} {es : Nat → Engine}

theorem pairwise_numbers (c : Cluster) : c.numbers.Pairwise (· < ·) := by
  rw [numbers, List.pairwise_map]
  exact List.pairwise_lt_range.imp Nat.succ_lt_succ

theorem Hosts.lacking_eq (h : c.Hosts es) (name : String) :
    c.lacking name = (c.numbers.filter fun k => !(es k).holds name).map ParticipantId.mk := by
  rw [lacking, h.workerIds_eq, List.filter_map]
  congr 1
  refine List.filter_congr fun k hk => ?_
  obtain ⟨hz, hle⟩ := mem_numbers.1 hk
  obtain ⟨i, rfl⟩ := Nat.exists_eq_succ_of_ne_zero hz
  rw [Function.comp_apply, h.seats.worker? hle]
  rfl

theorem Hosts.lacking_eq_nil_iff (h : c.Hosts es) :
    c.lacking name = [] ↔ ∀ w ∈ c.workers, ∃ e, w.engine = some e ∧ e.holds name = true := by
  rw [h.lacking_eq, List.map_eq_nil_iff, List.filter_eq_nil_iff, numbers, List.forall_mem_map,
    h.seats.workers, List.forall_mem_map, List.length_map, List.length_range]
  refine forall₂_congr fun i _ => ?_
  rw [Bool.not_eq_true', Bool.not_eq_false]
  constructor
  · intro hholds
    exact ⟨_, rfl, hholds⟩
  · rintro ⟨e, he, hholds⟩
    cases he
    exact hholds

/-- The workers without the table are those whose part fails, and they fail for that reason. -/
theorem Hosts.failures_drop (h : c.Hosts es) (name : String) {js : List Nat}
    (hjs : js.Perm c.numbers) :
    (Outcome.ofEnded (Outcome.inOrder js fun k =>
      (Duty.drop name).outcome c.files (es k))).failures = (c.lacking name).map (absence name) := by
  rw [Outcome.failures_inOrder c.pairwise_numbers hjs, h.lacking_eq, List.map_map,
    ← List.filterMap_eq_map, List.filterMap_filter]
  refine List.filterMap_congr fun k _ => ?_
  rw [outcome_drop]
  cases (es k).holds name <;> rfl

theorem Hosts.answer_drop (h : c.Hosts es) (hn : (es 0).holds name = true)
    (hop : c.Performs (.drop name) d answer) :
    answer = if c.lacking name = [] then .ok .done
      else .error (.barrierFailed "drop table" ((c.lacking name).map (absence name))) := by
  obtain ⟨-, -, js, hjs, rfl⟩ := h.drops hn hop
  rw [Outcome.result, Outcome.isComplete, h.failures_drop name hjs, List.isEmpty_map]
  cases c.lacking name <;> rfl

/--
A table that the coordinator has is dropped by all participants, whichever of them had it: each has
its other tables as they were. The answer is a success exactly if all workers had the table, and
else a report on those that did not. Without the table at the coordinator nothing changes. The
engines may have any tables: `Hosts` only says that all are there and do what they are asked.
-/
theorem drop_clears_everywhere (h : c.Hosts es) (hop : c.Performs (.drop name) d answer) :
    (c.own.holds name = true →
      d.engines.length = c.members.size ∧
      List.Forall₂ (Engine.Forgoes name) c.engines d.engines ∧
      (answer = .ok .done ↔
        ∀ w ∈ c.workers, ∃ e, w.engine = some e ∧ e.holds name = true) ∧
      (answer ≠ .ok .done → answer =
        .error (.barrierFailed "drop table" ((c.lacking name).map (absence name))))) ∧
    (c.own.holds name = false → answer = .error (.engine (.tableNotFound name)) ∧ d = c) := by
  rw [h.seats.own]
  constructor
  · intro hn
    obtain ⟨hkeep, ⟨fs, hd, hf⟩, -⟩ := h.drops hn hop
    have hanswer := h.answer_drop hn hop
    refine ⟨?_, ?_, ?_, ?_⟩
    · rw [hd.seats.engines, List.length_map, List.length_range, hkeep.workers, h.size]
    · rw [h.seats.engines, hd.seats.engines, hkeep.workers, List.forall₂_map_left_iff,
        List.forall₂_map_right_iff, List.forall₂_same]
      intro k hk
      rw [hf k (Nat.le_of_lt_succ (List.mem_range.1 hk))]
      exact (es k).forgoes_without name
    · rw [← h.lacking_eq_nil_iff, hanswer]
      split
      · next hnone => exact iff_of_true rfl hnone
      · next hsome => exact iff_of_false (fun he => nomatch he) hsome
    · intro hne
      rw [hanswer] at hne ⊢
      split at hne
      · exact absurd rfl hne
      · next hsome => rw [if_neg hsome]
  · intro hn
    exact (hop.answered_eq (h.start_drop_error hn)).symm

/-- The coordinator has a table that the worker lacks, and the worker has another one. -/
theorem drop_clears_everywhere_diverged : ∃ (c d : Cluster) (es : Nat → Engine),
    c.Hosts es ∧ c.own.holds "t" = true ∧ c.lacking "t" = [⟨1⟩] ∧
      c.Performs (.drop "t") d (.error (.barrierFailed "drop table" [absence "t" ⟨1⟩])) ∧
      ∀ e ∈ d.engines, e.holds "t" = false := by
  obtain ⟨c₀, h₀⟩ := exists_run
  obtain ⟨hc₀, hsize⟩ := hosts_of_run h₀
  let es : Nat → Engine := fun k =>
    (Engine.fresh c₀.members k).withTable (if k = 0 then "t" else "u") counted
  have hc : (c₀.hosting es c₀.net).Hosts es :=
    hc₀.hosting (fun k hk => Duty.isSound_withTable (hc₀.engine k hk) ..) (.refl _)
  generalize hce : c₀.hosting es c₀.net = c at hc
  have hlen : c.workers.length = 1 := by rw [← hce, length_workers_hosting, hsize]
  have hlacking : c.lacking "t" = [⟨1⟩] := by
    rw [hc.lacking_eq, numbers, hlen]
    rfl
  have hheld : c.own.holds "t" = true := by
    rw [hc.seats.own]
    rfl
  have hop := c.performs_perform (.drop "t")
  obtain ⟨hall, hanswer, hreport⟩ := ((drop_clears_everywhere hc hop).1 hheld).2
  have hfails : (c.perform (.drop "t")).2 ≠ .ok .done := by
    rw [ne_eq, hanswer, ← hc.lacking_eq_nil_iff, hlacking]
    exact List.cons_ne_nil _ _
  rw [hreport hfails, hlacking] at hop
  refine ⟨c, _, es, hc, hheld, hlacking, hop, fun e he => ?_⟩
  obtain ⟨e₀, hforgoes⟩ := exists_of_forall₂_mem hall.flip he
  exact hforgoes.gone

end Cluster

end ShardQuery
