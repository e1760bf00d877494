import ShardQuery.Proofs.Cluster.Perform
import ShardQuery.Proofs.Option
import Mathlib.Data.List.Permutation

namespace ShardQuery

namespace TimedCall

variable {α : Type u} {limit : Option Nat} {c : TimedCall α}

/-- A call that ends, and not after the limit. -/
def InTime (limit : Option Nat) (c : TimedCall α) : Prop :=
  ∃ t, c.after = some t ∧ ∀ l, limit = some l → t ≤ l

/-- A call that does its part, with what it comes back with. -/
structure Completes (limit : Option Nat) (c : TimedCall α) (v : ParticipantId × α) : Prop where
  participant : v.1 = c.participant
  inTime : InTime limit c
  result : c.result = .ok v.2

/-- Why a call does not do its part. -/
inductive Fails (limit : Option Nat) (c : TimedCall α) : FailureKind → Prop where
  | late (hl : limit = some l) (h : ¬ InTime limit c) : Fails limit c (.timedOut l)
  | gone (h : InTime limit c) (hr : c.result = .error (.channelClosed p)) :
      Fails limit c .disconnected
  /-- The participant's own reason counts alone, without its name. -/
  | refused (h : InTime limit c) (hr : c.result = .error (.participantFailed p reason)) :
      Fails limit c (.rejected reason)
  | other (h : InTime limit c) (hr : c.result = .error e) (hgone : ∀ p, e ≠ .channelClosed p)
      (hrefused : ∀ p reason, e ≠ .participantFailed p reason) : Fails limit c (.rejected e.message)

theorem Fails.not_completes (h : Fails limit c kind) (v : ParticipantId × α) :
    ¬ Completes limit c v := by
  intro hc
  cases h with
  | late hl h => exact h hc.inTime
  | gone _ hr =>
    rw [hc.result] at hr
    cases hr
  | refused _ hr =>
    rw [hc.result] at hr
    cases hr
  | other _ hr _ _ =>
    rw [hc.result] at hr
    cases hr

theorem fails_ofError (h : InTime limit c) (hr : c.result = .error e) :
    Fails limit c (.ofError e) := by
  cases e with
  | channelClosed p => exact .gone h hr
  | participantFailed p reason => exact .refused h hr
  | notReady | protocol | barrierFailed | engine =>
    exact .other h hr (fun _ h => nomatch h) (fun _ _ h => nomatch h)

/-- How an ending counts. -/
def Counts (limit : Option Nat) (c : TimedCall α) :
    ParticipantId × Except FailureKind α → Prop
  | (p, .ok a) => Completes limit c (p, a)
  | (p, .error kind) => p = c.participant ∧ Fails limit c kind

theorem counts_result (h : InTime limit c) :
    Counts limit c (c.participant, c.result.mapError FailureKind.ofError) := by
  cases hr : c.result with
  | ok a => exact ⟨rfl, h, hr⟩
  | error e => exact ⟨rfl, fails_ofError h hr⟩

/-- A call ends in time, is cut off at the limit, or there is neither an end nor a limit. -/
theorem ending?_cases (limit : Option Nat) (c : TimedCall α) :
    (∃ t, c.after = some t ∧ InTime limit c ∧ c.ending? limit =
        some (t, c.participant, c.result.mapError FailureKind.ofError)) ∨
      (∃ l, limit = some l ∧ ¬ InTime limit c ∧ c.ending? limit =
        some (l, c.participant, .error (.timedOut l))) ∨
      (c.after = none ∧ limit = none ∧ c.ending? limit = none) := by
  rw [ending?.eq_def]
  cases ht : c.after with
  | none =>
    have hlate : ¬ InTime limit c := by
      rintro ⟨t, ht', -⟩
      cases ht.symm.trans ht'
    cases limit with
    | none => exact .inr (.inr ⟨rfl, rfl, rfl⟩)
    | some l => exact .inr (.inl ⟨l, rfl, hlate, rfl⟩)
  | some t =>
    cases limit with
    | none => exact .inl ⟨t, rfl, ⟨t, ht, fun _ h => nomatch h⟩, rfl⟩
    | some l =>
      by_cases hle : t ≤ l
      · refine .inl ⟨t, rfl, ⟨t, ht, ?_⟩, if_pos hle⟩
        rintro _ ⟨⟩
        exact hle
      · refine .inr (.inl ⟨l, rfl, ?_, if_neg hle⟩)
        rintro ⟨t', ht', hle'⟩
        cases ht.symm.trans ht'
        exact hle (hle' l rfl)

theorem counts_of_ending? (h : c.ending? limit = some e) : Counts limit c e.2 := by
  rcases ending?_cases limit c with ⟨t, -, hin, he⟩ | ⟨l, hl, hlate, he⟩ | ⟨-, -, he⟩
  · cases he.symm.trans h
    exact counts_result hin
  · cases he.symm.trans h
    exact ⟨rfl, .late hl hlate⟩
  · cases he.symm.trans h

theorem Completes.ending?_fst (hv : Completes limit c v) (h : c.ending? limit = some e)
    (ht : c.after = some t) : e.1 = t := by
  rcases ending?_cases limit c with ⟨t', ht', -, he⟩ | ⟨_, -, hlate, -⟩ | ⟨-, -, he⟩
  · cases he.symm.trans h
    cases ht.symm.trans ht'
    rfl
  · exact absurd hv.inTime hlate
  · cases he.symm.trans h

theorem Completes.exists_ending? (hv : Completes limit c v) : ∃ e, c.ending? limit = some e := by
  rcases ending?_cases limit c with ⟨_, -, -, he⟩ | ⟨_, -, hlate, -⟩ | ⟨hnone, -, -⟩
  · exact ⟨_, he⟩
  · exact absurd hv.inTime hlate
  · obtain ⟨t, ht, -⟩ := hv.inTime
    cases hnone.symm.trans ht

end TimedCall

/-- An outcome of calls that end each at its time or at the limit. Those that end at one time are
taken up in any order. -/
def Settles {α : Type u} (limit : Option Nat) (calls : List (TimedCall α)) (o : Outcome α) :
    Prop :=
  ∃ (order : List (TimedCall α)) (endings : List (Nat × ParticipantId × Except FailureKind α)),
    order.Perm calls ∧ order.mapM (TimedCall.ending? limit) = some endings ∧
      endings.Pairwise (fun d e => d.1 ≤ e.1) ∧ o = .ofEnded (endings.map Prod.snd)

/-- An outcome with the calls behind it: each call is there once, as done or as failed. -/
structure Accounts {α : Type u} (limit : Option Nat) (calls : List (TimedCall α)) (o : Outcome α)
    (done failed : List (TimedCall α)) : Prop where
  once : (done ++ failed).Perm calls
  completed : List.Forall₂ (TimedCall.Completes limit) done o.completed
  failures : List.Forall₂ (fun c f => f.participant = c.participant ∧ c.Fails limit f.kind) failed
    o.failures
  /-- Values are in the order of the times at which the calls ended. -/
  inOrder : done.Pairwise fun c d => ∀ t u, c.after = some t → d.after = some u → t ≤ u
  byId : o.failures.Pairwise fun f g => f.participant.number ≤ g.participant.number

theorem exists_of_forall₂_mem {R : α → β → Prop} {l : List α} {m : List β}
    (h : List.Forall₂ R l m) (ha : a ∈ l) : ∃ b, R a b := by
  obtain ⟨i, hi, rfl⟩ := List.getElem_of_mem ha
  exact ⟨_, h.get hi (h.length_eq ▸ hi)⟩

section Barrier

variable {α : Type u} {limit : Option Nat} {calls order done failed : List (TimedCall α)}
  {c : TimedCall α} {o : Outcome α}

theorem exists_barrier (h : limit = none → ∀ c ∈ calls, c.after ≠ none) :
    ∃ o, barrier limit calls = some o := by
  cases hm : calls.mapM (TimedCall.ending? limit) with
  | none =>
    obtain ⟨c, hc, hnone⟩ := mapM_eq_none_iff.1 hm
    rcases c.ending?_cases limit with ⟨_, -, -, he⟩ | ⟨_, -, -, he⟩ | ⟨hafter, hlimit, -⟩
    · cases hnone.symm.trans he
    · cases hnone.symm.trans he
    · exact absurd hafter (h hlimit c hc)
  | some endings => exact ⟨_, by rw [barrier, hm]; rfl⟩

theorem settles_barrier (h : barrier limit calls = some o) : Settles limit calls o := by
  obtain ⟨endings, hm, ho⟩ := Option.bind_eq_some_iff.1 h
  cases ho
  have hperm : ((endings.mergeSort fun a b => a.1 ≤ b.1).map some).Perm
      (calls.map (TimedCall.ending? limit)) := by
    rw [mapM_eq_some_iff.1 hm]
    exact (List.mergeSort_perm ..).map _
  obtain ⟨order, horder, hmap⟩ := exists_map_of_perm hperm
  exact ⟨order, _, horder, mapM_eq_some_iff.2 hmap.symm, pairwise_mergeSort_key .., rfl⟩

/-- The calls in the order of their ends fall into those that are done and those that failed. -/
theorem exists_accounted (h : order.mapM (TimedCall.ending? limit) = some endings) :
    ∃ done failed, (done ++ failed).Perm order ∧ done.Sublist order ∧
      List.Forall₂ (TimedCall.Completes limit) done
        ((endings.map Prod.snd).filterMap Outcome.completed?) ∧
      List.Forall₂ (fun c f => f.participant = c.participant ∧ c.Fails limit f.kind) failed
        ((endings.map Prod.snd).filterMap Outcome.failure?) := by
  induction order generalizing endings with
  | nil =>
    cases h
    exact ⟨[], [], .refl _, .refl _, .nil, .nil⟩
  | cons c order ih =>
    rw [mapM_cons_option] at h
    obtain ⟨e, he, h⟩ := Option.bind_eq_some_iff.1 h
    obtain ⟨es, hes, rfl⟩ := Option.map_eq_some_iff.1 h
    obtain ⟨done, failed, hperm, hsub, hdone, hfailed⟩ := ih hes
    have hcounts := TimedCall.counts_of_ending? he
    obtain ⟨t, p, r⟩ := e
    cases r with
    | ok a =>
      exact ⟨c :: done, failed, hperm.cons c, hsub.cons_cons c, .cons hcounts hdone, hfailed⟩
    | error kind =>
      exact ⟨done, c :: failed, List.perm_middle.trans (hperm.cons c), hsub.cons c, hdone,
        .cons hcounts hfailed⟩

theorem Settles.accounts (h : Settles limit calls o) :
    ∃ done failed, Accounts limit calls o done failed := by
  obtain ⟨order, endings, horder, hendings, hsorted, rfl⟩ := h
  obtain ⟨done, failed, hperm, hsub, hdone, hfailed⟩ := exists_accounted hendings
  -- the failures are sorted once all are known, and their calls with them
  obtain ⟨failed', hfailed', hsort⟩ := List.perm_comp_forall₂
    (List.mergeSort_perm _ fun f g : Failure => f.participant.number ≤ g.participant.number)
    hfailed.flip
  refine ⟨done, failed', ?_, hdone, hfailed'.flip, ?_, ?_⟩
  · exact ((List.Perm.append_left done hsort).trans hperm).trans horder
  · have htimes : order.Pairwise fun c d => ∀ e e', c.ending? limit = some e →
        d.ending? limit = some e' → e.1 ≤ e'.1 := by
      have hmap : (order.map (TimedCall.ending? limit)).Pairwise
          fun x y => ∀ e e', x = some e → y = some e' → e.1 ≤ e'.1 := by
        rw [mapM_eq_some_iff.1 hendings, List.pairwise_map]
        refine hsorted.imp ?_
        rintro d e hle _ _ ⟨⟩ ⟨⟩
        exact hle
      exact List.pairwise_map.1 hmap
    refine (htimes.sublist hsub).imp_of_mem fun hc hd hle t u ht hu => ?_
    obtain ⟨v, hv⟩ := exists_of_forall₂_mem hdone hc
    obtain ⟨w, hw⟩ := exists_of_forall₂_mem hdone hd
    obtain ⟨e, he⟩ := hv.exists_ending?
    obtain ⟨e', he'⟩ := hw.exists_ending?
    rw [← hv.ending?_fst he ht, ← hw.ending?_fst he' hu]
    exact hle e e' he he'
  · exact pairwise_mergeSort_key ..

namespace Accounts

theorem not_completes (h : Accounts limit calls o done failed) (hc : c ∈ failed)
    (v : ParticipantId × α) : ¬ c.Completes limit v := by
  obtain ⟨f, -, hf⟩ := exists_of_forall₂_mem h.failures hc
  exact hf.not_completes v

theorem failed_eq_nil_iff (h : Accounts limit calls o done failed) :
    failed = [] ↔ ∀ c ∈ calls, ∃ v, c.Completes limit v := by
  constructor
  · rintro rfl c hc
    have hdone : c ∈ done := by
      have hmem := h.once.mem_iff.2 hc
      rwa [List.append_nil] at hmem
    exact exists_of_forall₂_mem h.completed hdone
  · intro hall
    refine List.eq_nil_iff_forall_not_mem.2 fun c hc => ?_
    obtain ⟨v, hv⟩ := hall c (h.once.mem_iff.1 (List.mem_append_right _ hc))
    exact h.not_completes hc v hv

theorem isComplete_iff (h : Accounts limit calls o done failed) :
    o.isComplete = true ↔ failed = [] := by
  rw [Outcome.isComplete, List.isEmpty_iff, ← List.length_eq_zero_iff, ← h.failures.length_eq,
    List.length_eq_zero_iff]

theorem participants_failures (h : Accounts limit calls o done failed) :
    o.failures.map Failure.participant = failed.map TimedCall.participant := by
  refine (List.forall₂_eq_eq_eq ▸ List.forall₂_map_left_iff.2 (List.forall₂_map_right_iff.2 ?_))
  exact h.failures.flip.imp fun _ _ hf => hf.1

theorem result_eq_ok_iff (h : Accounts limit calls o done failed) (operation : String) :
    o.result operation = .ok o.completed ↔ ∀ c ∈ calls, ∃ v, c.Completes limit v := by
  rw [← h.failed_eq_nil_iff, ← h.isComplete_iff]
  constructor
  · intro hok
    by_contra hfails
    cases (Outcome.result_of_incomplete hfails operation).symm.trans hok
  · intro hcomplete
    exact Outcome.result_of_complete hcomplete operation

theorem result_eq_error (h : Accounts limit calls o done failed) (hc : c ∈ calls)
    (hfails : ∀ v, ¬ c.Completes limit v) (operation : String) :
    ∃ e, o.result operation = .error e ∧ e = .barrierFailed operation o.failures ∧
      e.failedParticipants = failed.map TimedCall.participant := by
  have hincomplete : ¬ o.isComplete = true := by
    rw [h.isComplete_iff, h.failed_eq_nil_iff]
    intro hall
    obtain ⟨v, hv⟩ := hall c hc
    exact hfails v hv
  exact ⟨_, Outcome.result_of_incomplete hincomplete operation, rfl, h.participants_failures⟩

end Accounts

/-- A barrier that has a limit, or whose calls all end, comes to an outcome. In every outcome each
call counts once, with its value or for its reason; the result is the values of all, or names just
those that failed. -/
theorem barrier_accounts (h : limit = none → ∀ c ∈ calls, c.after ≠ none) :
    (∃ o, barrier limit calls = some o ∧ Settles limit calls o) ∧
      ∀ o, Settles limit calls o → ∃ done failed, Accounts limit calls o done failed ∧
        (∀ c ∈ failed, ∀ v, ¬ c.Completes limit v) ∧ ∀ operation,
          (o.result operation = .ok o.completed ↔ ∀ c ∈ calls, ∃ v, c.Completes limit v) ∧
          ∀ c ∈ calls, (∀ v, ¬ c.Completes limit v) →
            ∃ e, o.result operation = .error e ∧ e = .barrierFailed operation o.failures ∧
              e.failedParticipants = failed.map TimedCall.participant := by
  constructor
  · obtain ⟨o, ho⟩ := exists_barrier h
    exact ⟨o, ho, settles_barrier ho⟩
  · intro o ho
    obtain ⟨done, failed, haccounts⟩ := ho.accounts
    refine ⟨done, failed, haccounts, fun c hc => haccounts.not_completes hc, fun operation => ?_⟩
    exact ⟨haccounts.result_eq_ok_iff operation,
      fun c hc hfails => haccounts.result_eq_error hc hfails operation⟩

end Barrier

/-- Calls of which one does its part, two fail, and one never ends. -/
def fourCalls : List (TimedCall Unit) :=
  [⟨⟨2⟩, some 0, .error (.channelClosed ⟨2⟩)⟩, ⟨⟨0⟩, some 0, .ok ()⟩,
    ⟨⟨1⟩, some 0, .error (.participantFailed ⟨1⟩ "Table not found: t")⟩, ⟨⟨3⟩, none, .ok ()⟩]

theorem barrier_accounts_four :
    (some 50 = none → ∀ c ∈ fourCalls, c.after ≠ none) ∧
      ∃ (o : Outcome Unit) (failed : List (TimedCall Unit)),
        barrier (some 50) fourCalls = some o ∧ o.completedIds = [⟨0⟩] ∧
        o.failures = [⟨⟨1⟩, .rejected "Table not found: t"⟩, ⟨⟨2⟩, .disconnected⟩,
          ⟨⟨3⟩, .timedOut 50⟩] ∧
        failed.map TimedCall.participant = [⟨1⟩, ⟨2⟩, ⟨3⟩] ∧
        ∀ c ∈ failed, ∀ v, ¬ c.Completes (some 50) v := by
  have hlimit : some 50 = none → ∀ c ∈ fourCalls, c.after ≠ none := fun h => nomatch h
  obtain ⟨⟨o, ho, hsettles⟩, hall⟩ := barrier_accounts hlimit
  obtain ⟨done, failed, haccounts, hfails, -⟩ := hall o hsettles
  have hrun : barrier (some 50) fourCalls = some ⟨[(⟨0⟩, ())],
      [⟨⟨1⟩, .rejected "Table not found: t"⟩, ⟨⟨2⟩, .disconnected⟩, ⟨⟨3⟩, .timedOut 50⟩]⟩ := by
    cbv
  cases ho.symm.trans hrun
  exact ⟨hlimit, _, failed, hrun, rfl, rfl, haccounts.participants_failures.symm, hfails⟩

end ShardQuery
