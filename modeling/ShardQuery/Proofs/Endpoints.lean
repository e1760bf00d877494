import ShardQuery.Endpoints
import ShardQuery.Proofs.Except
import ShardQuery.Proofs.List

namespace ShardQuery

namespace PartitionCache

/-- A request is refused and changes nothing, or does what it is for. -/
inductive Handles (c : PartitionCache) :
    Errand → Except QueryError Receipt → PartitionCache → Prop where
  | refuse : Handles c r (.error x) c
  | put (h : c.put token i batch = .ok d) : Handles c (.put c.owner token i batch) (.ok .stored) d
  | pull (h : c.pull i = .ok (p, d)) : Handles c (.pull i) (.ok (.partition p.batch)) d
  | discard : Handles c (.discard i) (.ok (.discarded (c.discard i).1)) (c.discard i).2

variable {c d : PartitionCache} {r : Errand} {id : MessageId} {p : CachedPartition}

theorem owner_put (h : c.put token id batch = .ok d) : d.owner = c.owner := by
  rw [put] at h
  split at h
  · cases h
    rfl
  · split at h <;> cases h
    rfl

theorem stored_put (h : c.put token id batch = .ok d) (hp : d.stored.find? i = some p) :
    c.stored.find? i = some p ∨ i = id ∧ p = ⟨c.owner, token, batch⟩ := by
  rw [put] at h
  split at h
  · cases h
    exact .inl hp
  · split at h
    · cases h
    · cases h
      rw [FiniteMap.find?_insert] at hp
      split at hp
      · next hi =>
        cases hp
        exact .inr ⟨hi, rfl⟩
      · exact .inl hp

theorem pull_eq_ok_iff : c.pull id = .ok (p, d) ↔
    c.stored.find? id = some p ∧ d = { c with stored := c.stored.erase id } := by
  rw [pull]
  split
  · next p' hf =>
    rw [hf]
    constructor
    · intro h
      cases h
      exact ⟨rfl, rfl⟩
    · rintro ⟨h, rfl⟩
      cases h
      rfl
  · next hf =>
    rw [hf]
    exact iff_of_false (by rintro ⟨⟩) (by rintro ⟨⟨⟩, -⟩)

theorem stored_discard (h : (c.discard id).2.stored.find? i = some p) :
    c.stored.find? i = some p := by
  rw [discard] at h
  split at h
  · exact FiniteMap.find?_of_erase h
  · exact h

theorem owner_discard (c : PartitionCache) (id : MessageId) : (c.discard id).2.owner = c.owner := by
  rw [discard]
  split <;> rfl

theorem handles (c : PartitionCache) (r : Errand) :
    Handles c r (c.handle r).1 (c.handle r).2 := by
  cases r with
  | put owner token id batch =>
    rw [handle]
    split
    · next ho =>
      subst ho
      split
      · next h => exact .put h
      · exact .refuse
    · exact .refuse
  | pull id =>
    rw [handle]
    split
    · next h => exact .pull h
    · exact .refuse
  | discard id => exact .discard

theorem handle_of_other_owner {owner : ParticipantId} (h : c.owner ≠ owner) :
    c.handle (.put owner token id batch) =
      (.error (.transport ("Partition " ++ id.text ++ " addressed to " ++ owner.shown ++
        " was delivered to " ++ c.owner.shown)), c) := by
  rw [handle, if_neg h]

theorem Handles.owner (h : Handles c r y d) : d.owner = c.owner := by
  cases h with
  | refuse => rfl
  | put h => exact owner_put h
  | pull h =>
    rw [(pull_eq_ok_iff.1 h).2]
  | discard => exact owner_discard ..

theorem Handles.of_error (h : Handles c r (.error x) d) : d = c := by
  cases h
  rfl

/-- What is stored after a request was stored before it, or the request brought it. -/
theorem Handles.stored (h : Handles c r y d) (hp : d.stored.find? i = some p) :
    c.stored.find? i = some p ∨ r = .put c.owner p.token i p.batch ∧ y = .ok .stored := by
  cases h with
  | refuse => exact .inl hp
  | put h =>
    rcases stored_put h hp with hp | ⟨rfl, rfl⟩
    · exact .inl hp
    · exact .inr ⟨rfl, rfl⟩
  | pull h =>
    rw [(pull_eq_ok_iff.1 h).2] at hp
    exact .inl (FiniteMap.find?_of_erase hp)
  | discard => exact .inl (stored_discard hp)

theorem Handles.pulled (h : Handles c (.pull id) (.ok (.partition batch)) d) :
    ∃ p, c.stored.find? id = some p ∧ p.batch = batch := by
  cases h with
  | pull h => exact ⟨_, (pull_eq_ok_iff.1 h).1, rfl⟩

end PartitionCache

namespace Endpoints

/-! ### The record -/

namespace Entry

def binds (n : Nat) : Entry → Bool
  | .bound m _ _ => m = n
  | _ => false

/-- An entry after which an address is not bound as before. -/
def Rebinds (e : String) : Entry → Prop
  | .bound _ a _ => a.endpoint = e
  | .unbound _ e' => e' = e
  | _ => False

/-- An entry that has nothing to do with binding. -/
def Quiet : Entry → Prop
  | .bound .. => False
  | .unbound .. => False
  | _ => True

theorem Quiet.binds_eq {x : Entry} (h : x.Quiet) (n : Nat) : x.binds n = false := by
  cases x with
  | bound => cases h
  | unbound => cases h
  | refused | asked | answered => rfl

theorem Quiet.not_rebinds {x : Entry} (h : x.Quiet) (e : String) : ¬ x.Rebinds e := by
  cases x with
  | bound => cases h
  | unbound => cases h
  | refused | asked | answered => exact fun h => h

end Entry

def since (n : Nat) : List Entry → List Entry
  | [] => []
  | x :: record => if x.binds n then record else since n record

variable {s : Endpoints} {record rest : List Entry} {x : Entry} {n : Nat} {e : String}

theorem since_append_of_bound (h : ∃ x ∈ record, x.binds n = true) (rest : List Entry) :
    since n (record ++ rest) = since n record ++ rest := by
  induction record with
  | nil =>
    obtain ⟨_, hx, _⟩ := h
    cases hx
  | cons y record ih =>
    rw [List.cons_append, since, since]
    split
    · rfl
    · next hy =>
      obtain ⟨x, hx, hb⟩ := h
      rcases List.mem_cons.1 hx with rfl | hx
      · exact absurd hb hy
      · exact ih ⟨x, hx, hb⟩

theorem since_append_of_not_bound (h : ∀ x ∈ record, x.binds n = false) (rest : List Entry) :
    since n (record ++ rest) = since n rest := by
  induction record with
  | nil => rfl
  | cons y record ih =>
    rw [List.cons_append, since, h y (List.mem_cons_self ..), if_neg (by decide)]
    exact ih fun x hx => h x (List.mem_cons_of_mem _ hx)

/-- By the record, a task was bound at an address, which has not been bound or unbound since. -/
structure IsBound (n : Nat) (e : String) (record : List Entry) : Prop where
  bound : ∃ a owner, a.endpoint = e ∧ .bound n a owner ∈ record
  since : ∀ x ∈ since n record, ¬ x.Rebinds e

theorem binds_of_mem (h : .bound n a owner ∈ record) : ∃ x ∈ record, x.binds n = true :=
  ⟨_, h, decide_eq_true rfl⟩

theorem IsBound.append (h : IsBound n e record) (hrest : ∀ x ∈ rest, ¬ x.Rebinds e) :
    IsBound n e (record ++ rest) := by
  obtain ⟨a, owner, ha, hmem⟩ := h.bound
  refine ⟨⟨a, owner, ha, List.mem_append_left _ hmem⟩, fun x hx => ?_⟩
  rw [since_append_of_bound (binds_of_mem hmem)] at hx
  rcases List.mem_append.1 hx with hx | hx
  · exact h.since x hx
  · exact hrest x hx

theorem IsBound.of_snoc (h : IsBound n e (record ++ [x])) (hx : x.binds n = false) :
    IsBound n e record ∧ ¬ x.Rebinds e := by
  obtain ⟨a, owner, ha, hmem⟩ := h.bound
  have hmem : .bound n a owner ∈ record := by
    rcases List.mem_append.1 hmem with hmem | hmem
    · exact hmem
    · rw [← List.mem_singleton.1 hmem] at hx
      exact absurd hx (by simp [Entry.binds])
  have hsince := h.since
  rw [since_append_of_bound (binds_of_mem hmem)] at hsince
  exact ⟨⟨⟨a, owner, ha, hmem⟩, fun y hy => hsince y (List.mem_append_left _ hy)⟩,
    hsince x (List.mem_append_right _ (List.mem_cons_self ..))⟩

/-- A task as the record has it: all that its cache holds was put there since the task was bound. -/
structure Hosted (n : Nat) (t : Endpoint) (record : List Entry) : Prop where
  bound : ∃ a, a.endpoint = t.address ∧ .bound n a t.cache.owner ∈ record
  put : ∀ id p, t.cache.stored.find? id = some p → ∃ a, a.endpoint = t.address ∧
    .answered (some n) a (.put t.cache.owner p.token id p.batch) (.ok .stored) ∈ since n record

theorem Hosted.append (h : Hosted n t record) (rest : List Entry) :
    Hosted n t (record ++ rest) := by
  obtain ⟨a, ha, hmem⟩ := h.bound
  refine ⟨⟨a, ha, List.mem_append_left _ hmem⟩, fun id p hp => ?_⟩
  obtain ⟨b, hb, hput⟩ := h.put id p hp
  rw [since_append_of_bound (binds_of_mem hmem)]
  exact ⟨b, hb, List.mem_append_left _ hput⟩

/-- A request that was sent to the task that was bound at its address then. -/
def Sent (q : Asked) (record : List Entry) : Prop :=
  ∃ before after, record = before ++ .asked q.endpoint q.address q.errand :: after ∧
    IsBound q.endpoint q.address.endpoint before

theorem Sent.append (h : Sent q record) (rest : List Entry) : Sent q (record ++ rest) := by
  obtain ⟨before, after, rfl, hbound⟩ := h
  exact ⟨before, after ++ rest, by rw [List.append_assoc, List.cons_append], hbound⟩

/-! ### What every action keeps -/

/-- The registry, the guards and the record tell the same. -/
structure Guarded (s : Endpoints) (record : List Entry) : Prop where
  guarded : ∀ e n, s.registry.find? e = some n ↔ s.guards.find? n = some e
  recorded : ∀ n e, s.guards.find? n = some e ↔ IsBound n e record

/-- A task runs as long as its guard is held, and what runs is as recorded. -/
structure Running (s : Endpoints) (record : List Entry) : Prop where
  runs : ∀ n e, s.guards.find? n = some e → ∃ t, s.running.find? n = some t ∧ t.address = e
  hosted : ∀ n t, s.running.find? n = some t → Hosted n t record

/-- By the record, each number was given once. -/
structure Numbered (next : Nat) (record : List Entry) : Prop where
  known : ∀ n x, x ∈ record → x.binds n = true → n < next
  once : ∀ n a owner a' owner', .bound n a owner ∈ record → .bound n a' owner' ∈ record →
    a = a' ∧ owner = owner'

structure Sound (s : Endpoints) (record : List Entry) : Prop extends
    Guarded s record, Running s record, Numbered s.next record where
  sent : ∀ q ∈ s.pending, Sent q record

theorem sound_empty : Sound .empty [] where
  guarded _ _ := iff_of_false (by rintro ⟨⟩) (by rintro ⟨⟩)
  recorded _ _ := by
    refine iff_of_false (by rintro ⟨⟩) fun h => ?_
    obtain ⟨_, _, _, hmem⟩ := h.bound
    cases hmem
  runs _ _ h := nomatch h
  hosted _ _ h := nomatch h
  known _ _ h := nomatch h
  once _ _ _ _ _ h := nomatch h
  sent _ h := nomatch h

section Note

theorem Guarded.note (h : Guarded s record) (hx : x.Quiet) : Guarded s (record ++ [x]) where
  guarded := h.guarded
  recorded n e := by
    rw [h.recorded n e]
    constructor
    · intro hb
      refine hb.append fun y hy => ?_
      rw [List.mem_singleton.1 hy]
      exact hx.not_rebinds e
    · intro hb
      exact (hb.of_snoc (hx.binds_eq n)).1

theorem Running.append (h : Running s record) (rest : List Entry) : Running s (record ++ rest) where
  runs := h.runs
  hosted n t ht := (h.hosted n t ht).append rest

theorem Numbered.snoc {next : Nat} (h : Numbered next record) (hx : ∀ n, x.binds n = false) :
    Numbered next (record ++ [x]) where
  known n y hy hb := by
    rcases List.mem_append.1 hy with hy | hy
    · exact h.known n y hy hb
    · rw [List.mem_singleton.1 hy, hx n] at hb
      cases hb
  once n a owner a' owner' hm hm' := by
    have hold : ∀ {a owner}, .bound n a owner ∈ record ++ [x] → .bound n a owner ∈ record := by
      intro a owner hm
      rcases List.mem_append.1 hm with hm | hm
      · exact hm
      · have hbinds := hx n
        rw [← List.mem_singleton.1 hm] at hbinds
        simp [Entry.binds] at hbinds
    exact h.once n a owner a' owner' (hold hm) (hold hm')

/-- A note that has nothing to do with binding changes nothing of what is recorded. -/
theorem sound_note (h : Sound s record) (hx : x.Quiet) : Sound s (record ++ [x]) where
  toGuarded := h.toGuarded.note hx
  toRunning := h.toRunning.append [x]
  toNumbered := h.toNumbered.snoc hx.binds_eq
  sent q hq := (h.sent q hq).append _

end Note

section Bind

variable {a : Address}

theorem Numbered.not_binds_next {next : Nat} (h : Numbered next record) (hx : x ∈ record) :
    x.binds next = false := by
  cases hb : x.binds next with
  | false => rfl
  | true => exact absurd (h.known next x hx hb) (Nat.lt_irrefl _)

theorem Numbered.notMem_next {next : Nat} (h : Numbered next record) (a : Address)
    (owner : ParticipantId) : .bound next a owner ∉ record := by
  intro hmem
  have hnot := h.not_binds_next hmem
  simp [Entry.binds] at hnot

theorem Sound.guards_next (h : Sound s record) : s.guards.find? s.next = none := by
  cases hg : s.guards.find? s.next with
  | none => rfl
  | some e =>
    obtain ⟨a, owner, -, hmem⟩ := ((h.recorded _ _).1 hg).bound
    exact absurd hmem (h.notMem_next a owner)

theorem mem_snoc_bound (h : .bound n a owner ∈ record ++ [.bound m b owner']) :
    .bound n a owner ∈ record ∨ n = m ∧ a = b ∧ owner = owner' := by
  rcases List.mem_append.1 h with h | h
  · exact .inl h
  · cases List.mem_singleton.1 h
    exact .inr ⟨rfl, rfl, rfl⟩

/-- The task that is bound next is bound at its address and at no other. -/
theorem Numbered.isBound_next_iff {next : Nat} (h : Numbered next record) (a : Address)
    (owner : ParticipantId) (e : String) :
    IsBound next e (record ++ [.bound next a owner]) ↔ a.endpoint = e := by
  constructor
  · intro hb
    obtain ⟨b, owner', he, hmem⟩ := hb.bound
    rcases mem_snoc_bound hmem with hmem | ⟨-, rfl, -⟩
    · exact absurd hmem (h.notMem_next b owner')
    · exact he
  · intro he
    refine ⟨⟨a, owner, he, List.mem_append_right _ (List.mem_cons_self ..)⟩, fun x hx => ?_⟩
    rw [since_append_of_not_bound fun y hy => h.not_binds_next hy, since] at hx
    simp [Entry.binds] at hx

theorem Sound.guarded_bind (h : Sound s record) (hfree : s.registry.find? a.endpoint = none)
    (owner : ParticipantId) (tasks : FiniteMap Nat Endpoint) (next : Nat) :
    Guarded
      { s with
        registry := s.registry.insert a.endpoint s.next
        guards := s.guards.insert s.next a.endpoint
        running := tasks
        next } (record ++ [.bound s.next a owner]) := by
  have hnew : ∀ n e, s.guards.find? n = some e → n ≠ s.next ∧ a.endpoint ≠ e := by
    intro n e hg
    have hreg := (h.guarded e n).2 hg
    have hnext := h.guards_next
    grind
  exact {
    guarded := by
      intro e n
      have hold := h.guarded e n
      have hother := hnew n e
      simp only [FiniteMap.find?_insert]
      grind
    recorded := by
      intro n e
      rw [FiniteMap.find?_insert]
      by_cases hn : n = s.next
      · subst hn
        rw [if_pos rfl, Option.some.injEq, h.isBound_next_iff]
      · rw [if_neg hn]
        constructor
        · intro hg
          refine ((h.recorded n e).1 hg).append fun y hy => ?_
          rw [List.mem_singleton.1 hy]
          exact (hnew n e hg).2
        · intro hb
          refine (h.recorded n e).2 (hb.of_snoc ?_).1
          simp [Entry.binds, Ne.symm hn]
  }

theorem Running.bind (h : Running s record) (a : Address) (owner : ParticipantId)
    (registry : FiniteMap String Nat) (next : Nat) :
    Running
      { s with
        registry
        guards := s.guards.insert s.next a.endpoint
        running := s.running.insert s.next ⟨a.endpoint, .empty owner⟩
        next } (record ++ [.bound s.next a owner]) where
  runs n e hg := by
    rw [FiniteMap.find?_insert] at hg ⊢
    split at hg
    · next hn =>
      cases hg
      exact ⟨_, if_pos hn, rfl⟩
    · next hn =>
      rw [if_neg hn]
      exact h.runs n e hg
  hosted n t ht := by
    rw [FiniteMap.find?_insert] at ht
    split at ht
    · next hn =>
      cases ht
      refine ⟨⟨a, rfl, ?_⟩, fun id p hp => by cases hp⟩
      rw [hn]
      exact List.mem_append_right _ (List.mem_cons_self ..)
    · exact (h.hosted n t ht).append _

theorem Numbered.bind {next : Nat} (h : Numbered next record) (a : Address)
    (owner : ParticipantId) : Numbered (next + 1) (record ++ [.bound next a owner]) where
  known n x hx hb := by
    rcases List.mem_append.1 hx with hx | hx
    · exact Nat.lt_succ_of_lt (h.known n x hx hb)
    · rw [List.mem_singleton.1 hx] at hb
      rw [← of_decide_eq_true hb]
      exact Nat.lt_succ_self _
  once n b owner' b' owner'' hm hm' := by
    rcases mem_snoc_bound hm with hold | ⟨rfl, rfl, rfl⟩
    · rcases mem_snoc_bound hm' with hold' | ⟨rfl, -, -⟩
      · exact h.once n b owner' b' owner'' hold hold'
      · exact absurd hold (h.notMem_next b owner')
    · rcases mem_snoc_bound hm' with hold' | ⟨-, rfl, rfl⟩
      · exact absurd hold' (h.notMem_next b' owner'')
      · exact ⟨rfl, rfl⟩

theorem sound_bind (h : Sound s record) (a : Address) (owner : ParticipantId) :
    Sound (s.bind a owner).1 (record ++ (s.bind a owner).2) := by
  rw [Endpoints.bind]
  split
  · exact sound_note h trivial
  · next hfree =>
    exact {
      toGuarded := h.guarded_bind hfree owner ..
      toRunning := h.toRunning.bind a owner ..
      toNumbered := h.toNumbered.bind a owner
      sent := fun q hq => (h.sent q hq).append _
    }

end Bind

theorem Guarded.guard_unique (h : Guarded s record) (hn : s.guards.find? n = some e)
    (hm : s.guards.find? m = some e) : n = m := by
  have hreg := (h.guarded e n).2 hn
  rw [(h.guarded e m).2 hm] at hreg
  exact (Option.some.inj hreg).symm

theorem Guarded.drop (h : Guarded s record) (hn : s.guards.find? n = some e) :
    Guarded { s with registry := s.registry.erase e, guards := s.guards.erase n }
      (record ++ [.unbound n e]) where
  guarded e' m := by
    have hreg := h.guarded e n
    have hold := h.guarded e' m
    have hunique : s.guards.find? m = some e → n = m := h.guard_unique hn
    simp only [FiniteMap.find?_erase]
    grind
  recorded m e' := by
    rw [FiniteMap.find?_erase]
    split
    · next hm =>
      refine iff_of_false (by rintro ⟨⟩) fun hb => ?_
      obtain ⟨hb, hkeeps⟩ := hb.of_snoc rfl
      rw [hm, ← h.recorded, hn] at hb
      exact hkeeps (Option.some.inj hb)
    · next hm =>
      constructor
      · intro hg
        refine ((h.recorded m e').1 hg).append fun y hy he => hm ?_
        rw [List.mem_singleton.1 hy] at he
        have he : e = e' := he
        rw [← he] at hg
        exact h.guard_unique hg hn
      · intro hb
        exact (h.recorded m e').2 (hb.of_snoc rfl).1

theorem sound_drop (h : Sound s record) (n : Nat) :
    Sound (s.drop n).1 (record ++ (s.drop n).2) := by
  rw [Endpoints.drop]
  split
  · next e hn =>
    exact {
      toGuarded := h.toGuarded.drop hn
      runs := fun m e' hg => h.runs m e' (FiniteMap.find?_of_erase hg)
      hosted := fun m t ht => (h.hosted m t ht).append _
      toNumbered := h.toNumbered.snoc fun _ => rfl
      sent := fun q hq => (h.sent q hq).append _
    }
  · rw [List.append_nil]
    exact h

theorem sound_finish (h : Sound s record) (n : Nat) : Sound (s.finish n) record := by
  rw [Endpoints.finish]
  split
  · exact h
  · next hn =>
    exact {
      guarded := h.guarded
      recorded := h.recorded
      runs := by
        intro m e hg
        have hm : m ≠ n := by
          rintro rfl
          exact hn (FiniteMap.contains_of_find? hg)
        rw [FiniteMap.find?_erase, if_neg hm]
        exact h.runs m e hg
      hosted := fun m t ht => h.hosted m t (FiniteMap.find?_of_erase ht)
      toNumbered := h.toNumbered
      sent := h.sent
    }

theorem sound_ask (h : Sound s record) (a : Address) (r : Errand) :
    Sound (s.ask a r).1 (record ++ (s.ask a r).2) := by
  rw [Endpoints.ask]
  split
  · next n hn =>
    have hbound : IsBound n a.endpoint record := (h.recorded _ _).1 ((h.guarded _ _).1 hn)
    have hnote : Sound s (record ++ [.asked n a r]) := sound_note h trivial
    refine { hnote with sent := fun q hq => ?_ }
    rcases List.mem_append.1 hq with hq | hq
    · exact hnote.sent q hq
    · rw [List.mem_singleton.1 hq]
      exact ⟨record, [], rfl, hbound⟩
  · exact sound_note h trivial

theorem sound_forget (h : Sound s record) (i : Nat) :
    Sound { s with pending := s.pending.eraseIdx i } record :=
  { h with sent := fun q hq => h.sent q (List.mem_of_mem_eraseIdx hq) }

/-- A task serves at the address for which it was asked. -/
theorem Sound.address_eq (h : Sound s record) (hq : Sent q record)
    (ht : s.running.find? q.endpoint = some t) : t.address = q.address.endpoint := by
  obtain ⟨a, ha, hmem⟩ := (h.hosted _ _ ht).bound
  obtain ⟨before, after, rfl, hbound⟩ := hq
  obtain ⟨b, owner, hb, hmem'⟩ := hbound.bound
  obtain ⟨rfl, -⟩ := h.once _ _ _ _ _ hmem (List.mem_append_left _ hmem')
  rw [← ha, hb]

/-- A task that has served a request is hosted as before, with what the request stored. -/
theorem Hosted.serve {t : Endpoint} {q : Asked} (h : Hosted q.endpoint t record)
    (ha : t.address = q.address.endpoint) :
    Hosted q.endpoint ⟨t.address, (t.cache.handle q.errand).2⟩ (record ++
      [.answered (some q.endpoint) q.address q.errand (t.cache.handle q.errand).1]) := by
  have hhandles := t.cache.handles q.errand
  obtain ⟨a, he, hmem⟩ := h.bound
  refine ⟨⟨a, he, ?_⟩, fun id p hp => ?_⟩
  · rw [hhandles.owner]
    exact List.mem_append_left _ hmem
  · rw [since_append_of_bound (binds_of_mem hmem), hhandles.owner]
    rcases hhandles.stored hp with hold | ⟨hput, hok⟩
    · obtain ⟨b, hb, hput⟩ := h.put id p hold
      exact ⟨b, hb, List.mem_append_left _ hput⟩
    · refine ⟨q.address, ha.symm, List.mem_append_right _ ?_⟩
      rw [hok, hput]
      exact List.mem_cons_self ..

theorem sound_answer (h : Sound s record) (hq : Sent q record) :
    Sound (s.answer q).1 (record ++ (s.answer q).2) := by
  rw [Endpoints.answer]
  split
  · next t ht =>
    have hserved := (h.hosted _ _ ht).serve (h.address_eq hq ht)
    refine { sound_note h (x := .answered (some q.endpoint) q.address q.errand
      (t.cache.handle q.errand).1) trivial with runs := ?_, hosted := ?_ }
    · intro n e hg
      obtain ⟨t', ht', he⟩ := h.runs n e hg
      rw [FiniteMap.find?_insert]
      split
      · next hn =>
        rw [hn, ht] at ht'
        cases ht'
        exact ⟨_, rfl, he⟩
      · exact ⟨t', ht', he⟩
    · intro n t' ht'
      rw [FiniteMap.find?_insert] at ht'
      split at ht'
      · next hn =>
        subst hn
        cases ht'
        exact hserved
      · exact (h.hosted n t' ht').append _
  · exact sound_note h trivial

theorem sound_step (h : Sound s record) (action : Action) :
    Sound (s.step action).1 (record ++ (s.step action).2) := by
  cases action with
  | bind a owner => exact sound_bind h a owner
  | drop n => exact sound_drop h n
  | finish n =>
    rw [Endpoints.step, List.append_nil]
    exact sound_finish h n
  | ask a r => exact sound_ask h a r
  | serve i =>
    rw [Endpoints.step]
    split
    · next q hq => exact sound_answer (sound_forget h i) (h.sent q (List.mem_of_getElem? hq))
    · rw [List.append_nil]
      exact h

theorem sound_run (h : Sound s record) (actions : List Action) :
    Sound (s.run actions).1 (record ++ (s.run actions).2) := by
  induction actions generalizing s record with
  | nil =>
    rw [Endpoints.run, List.append_nil]
    exact h
  | cons action actions ih =>
    rw [Endpoints.run, ← List.append_assoc]
    exact ih (sound_step h action)

/-! ### What each action does -/

theorem cacheAt?_congr {s' : Endpoints} (hreg : s'.registry.find? e = s.registry.find? e)
    (hrun : ∀ n, s.registry.find? e = some n → s'.running.find? n = s.running.find? n) :
    s'.cacheAt? e = s.cacheAt? e := by
  rw [cacheAt?, cacheAt?, hreg]
  cases hn : s.registry.find? e with
  | none => rfl
  | some n =>
    rw [Option.bind_some, Option.bind_some, hrun n hn]

theorem running_answer (h : n ≠ q.endpoint) :
    (s.answer q).1.running.find? n = s.running.find? n := by
  rw [answer]
  split
  · simp [h]
  · rfl

theorem registry_answer (s : Endpoints) (q : Asked) : (s.answer q).1.registry = s.registry := by
  rw [answer]
  split <;> rfl

theorem running_answer_of_error
    (h : (s.answer q).2 = [.answered server a r (.error y)]) (n : Nat) :
    (s.answer q).1.running.find? n = s.running.find? n := by
  rw [answer] at h ⊢
  split at h
  · next t ht =>
    have herror : (t.cache.handle q.errand).1 = .error y := by
      simp only [List.cons.injEq, Entry.answered.injEq] at h
      exact h.1.2.2.2
    have hsame := PartitionCache.Handles.of_error (herror ▸ t.cache.handles q.errand)
    simp only [hsame, FiniteMap.find?_insert]
    split
    · next hn => rw [hn, ht]
    · rfl
  · rfl

namespace Sound

theorem exists_cacheAt? (h : Sound s record) (hn : s.registry.find? e = some n) :
    ∃ t, s.running.find? n = some t ∧ t.address = e ∧ s.cacheAt? e = some t.cache := by
  obtain ⟨t, ht, he⟩ := h.runs n e ((h.guarded e n).1 hn)
  refine ⟨t, ht, he, ?_⟩
  rw [cacheAt?, hn, Option.bind_some, ht]
  rfl

theorem cacheAt?_eq_none_iff (h : Sound s record) :
    s.cacheAt? e = none ↔ s.registry.find? e = none := by
  cases hn : s.registry.find? e with
  | none => exact iff_of_true (by rw [cacheAt?, hn]; rfl) rfl
  | some n =>
    obtain ⟨t, -, -, hc⟩ := h.exists_cacheAt? hn
    rw [hc]
    exact iff_of_false (by rintro ⟨⟩) (by rintro ⟨⟩)

/-- An action leaves the caches at other addresses alone. -/
theorem cacheAt?_step (h : Sound s record) (action : Action)
    (he : action.address? s ≠ some e) : (s.step action).1.cacheAt? e = s.cacheAt? e := by
  cases action with
  | bind a owner =>
    have hne : e ≠ a.endpoint := fun hh => he (congrArg some hh.symm)
    rw [Endpoints.step, Endpoints.bind]
    split
    · rfl
    · refine cacheAt?_congr (by simp [hne]) fun n hn => ?_
      have hnext : n ≠ s.next := by
        rintro rfl
        rw [h.guarded, h.guards_next] at hn
        cases hn
      simp [hnext]
  | drop n =>
    rw [Endpoints.step, Endpoints.drop]
    split
    · next e' hn =>
      have hne : e ≠ e' := by
        rintro rfl
        exact he hn
      exact cacheAt?_congr (by simp [hne]) fun _ _ => rfl
    · rfl
  | finish n =>
    rw [Endpoints.step, Endpoints.finish]
    split
    · rfl
    · next hfree =>
      refine cacheAt?_congr rfl fun m hm => ?_
      have hne : m ≠ n := by
        rintro rfl
        exact hfree (FiniteMap.contains_of_find? ((h.guarded e m).1 hm))
      simp [hne]
  | ask a r =>
    rw [Endpoints.step, Endpoints.ask]
    split <;> rfl
  | serve i =>
    rw [Endpoints.step]
    split
    · next q hq =>
      have hne : e ≠ q.address.endpoint := by
        rintro rfl
        exact he (by rw [Action.address?, hq]; rfl)
      refine cacheAt?_congr (by rw [registry_answer]) fun n hn => running_answer ?_
      rintro rfl
      obtain ⟨t, ht, hte, -⟩ := h.exists_cacheAt? hn
      exact hne (hte.symm.trans (h.address_eq (h.sent q (List.mem_of_getElem? hq)) ht))
    · rfl

end Sound

theorem bind_free (owner : ParticipantId) (hfree : s.registry.find? a.endpoint = none) :
    (s.bind a owner).2 = [.bound s.next a owner] ∧
      (s.bind a owner).1.cacheAt? a.endpoint = some (.empty owner) := by
  rw [bind, hfree]
  exact ⟨rfl, by simp [cacheAt?]⟩

theorem bind_taken (owner : ParticipantId) (hn : s.registry.find? a.endpoint = some n) :
    s.bind a owner =
      (s, [.refused a (.transport ("Cache endpoint " ++ a.endpoint ++ " is already bound"))]) := by
  rw [bind, hn]

theorem ask_unbound (r : Errand) (hfree : s.registry.find? a.endpoint = none) :
    s.ask a r = (s, [.answered none a r (.error (unboundAt a))]) := by
  rw [ask, hfree]

theorem answer_gone (hgone : s.running.find? q.endpoint = none) :
    s.answer q = (s, [.answered none q.address q.errand (.error (goneAt q.address))]) := by
  rw [answer, hgone]

/-! ### Whole requests -/

/-- The interconnect has the caches that requests find. -/
def Shows (s : Endpoints) (net : Interconnect) : Prop :=
  ∀ e, net.endpoints.find? e = s.cacheAt? e

end Endpoints

namespace Interconnect

variable {net : Interconnect} {a : Address}

theorem request_of_none (h : net.endpoints.find? a.endpoint = none) (r : Errand) :
    net.request a r = (.error (Endpoints.unboundAt a), net) := by
  have hcache : net.cacheAt a = .error (Endpoints.unboundAt a) := by
    rw [cacheAt, h]
    rfl
  cases r with
  | put owner token id batch => rw [request, put, hcache, Except.error_bind]
  | pull id => rw [request, pull, hcache, Except.error_bind]
  | discard id => rw [request, discard, hcache, Except.error_bind]

/-- A request at an address is a request to the cache there. -/
theorem request_of_some (h : net.endpoints.find? a.endpoint = some c) (r : Errand) :
    (net.request a r).1 = (c.handle r).1 ∧ ∀ e, (net.request a r).2.endpoints.find? e =
      if e = a.endpoint then some (c.handle r).2 else net.endpoints.find? e := by
  have hcache : net.cacheAt a = .ok c := by rw [cacheAt, h]
  have hsame : ∀ e, net.endpoints.find? e =
      if e = a.endpoint then some c else net.endpoints.find? e := by
    intro e
    split
    · next he => rw [he, h]
    · rfl
  cases r with
  | put owner token id batch =>
    rw [request, put, hcache, Except.ok_bind, PartitionCache.handle]
    by_cases ho : c.owner = owner
    · rw [if_pos ho, if_pos ho, Parcel.unpack_pack, Except.ok_bind, Except.ok_bind]
      cases c.put token id batch with
      | ok d => exact ⟨rfl, net.find?_withCache a d⟩
      | error x => exact ⟨rfl, hsame⟩
    · rw [if_neg ho, if_neg ho]
      exact ⟨rfl, hsame⟩
  | pull id =>
    rw [request, pull, hcache, Except.ok_bind, PartitionCache.handle]
    cases c.pull id with
    | ok q => exact ⟨rfl, net.find?_withCache a q.2⟩
    | error x => exact ⟨rfl, hsame⟩
  | discard id =>
    rw [request, discard, hcache, Except.ok_bind]
    exact ⟨rfl, net.find?_withCache a (c.discard id).2⟩

end Interconnect

namespace Endpoints

variable {net : Interconnect} {id : MessageId}

namespace Sound

theorem bind_shows (h : Sound s record) (hnet : s.Shows net) (a : Address)
    (owner : ParticipantId) :
    (∃ net', net.bind a owner = .ok net' ∧ (s.bind a owner).1.Shows net' ∧
        (s.bind a owner).2 = [.bound s.next a owner]) ∨
      ∃ x, net.bind a owner = .error x ∧ s.bind a owner = (s, [.refused a x]) := by
  cases hr : s.registry.find? a.endpoint with
  | none =>
    obtain ⟨hentry, hcache⟩ := bind_free owner hr
    have hbound : net.isBound a = false := by
      apply FiniteMap.not_contains_of_find?
      rw [hnet, h.cacheAt?_eq_none_iff.2 hr]
    refine .inl ⟨_, if_neg (Bool.eq_false_iff.1 hbound), fun e => ?_, hentry⟩
    rw [Interconnect.find?_withCache]
    split
    · next he => rw [he, hcache]
    · next he =>
      rw [hnet]
      exact (h.cacheAt?_step (.bind a owner)
        fun hh => he (Option.some.inj hh).symm).symm
  | some n =>
    obtain ⟨t, -, -, hcache⟩ := h.exists_cacheAt? hr
    have hbound : net.isBound a = true :=
      FiniteMap.contains_of_find? ((hnet a.endpoint).trans hcache)
    exact .inr ⟨_, if_pos hbound, bind_taken owner hr⟩

theorem drop_shows (h : Sound s record) (hnet : s.Shows net)
    (hn : s.guards.find? n = some a.endpoint) : (s.drop n).1.Shows (net.unbind a) := by
  intro e
  rw [Interconnect.find?_unbind]
  split
  · next he =>
    rw [he, Endpoints.drop, hn]
    simp [cacheAt?]
  · next he =>
    rw [hnet]
    refine (h.cacheAt?_step (.drop n) fun hh => he ?_).symm
    rw [Action.address?, hn] at hh
    exact (Option.some.inj hh).symm

/-- A request that is served at once is a request to the interconnect. -/
theorem request_shows (h : Sound s record) (hnet : s.Shows net) (a : Address) (r : Errand) :
    (s.run [.ask a r, .serve s.pending.length]).1.Shows (net.request a r).2 ∧
      ∃ server, (s.run [.ask a r, .serve s.pending.length]).2.getLast? =
        some (.answered server a r (net.request a r).1) := by
  cases hr : s.registry.find? a.endpoint with
  | none =>
    have hnone : net.endpoints.find? a.endpoint = none := by
      rw [hnet, h.cacheAt?_eq_none_iff.2 hr]
    have hend : s.pending[s.pending.length]? = none := List.getElem?_eq_none (Nat.le_refl _)
    rw [Interconnect.request_of_none hnone]
    simp only [Endpoints.run, Endpoints.step, ask_unbound r hr, hend]
    exact ⟨hnet, none, rfl⟩
  | some n =>
    obtain ⟨t, ht, hte, hcache⟩ := h.exists_cacheAt? hr
    have hsome : net.endpoints.find? a.endpoint = some t.cache := by rw [hnet, hcache]
    obtain ⟨hresult, hfind⟩ := Interconnect.request_of_some hsome r
    have hask : s.ask a r = ({ s with pending := s.pending ++ [⟨n, a, r⟩] }, [.asked n a r]) := by
      rw [Endpoints.ask, hr]
    have hlast : (s.pending ++ [⟨n, a, r⟩])[s.pending.length]? = some ⟨n, a, r⟩ :=
      List.getElem?_concat_length
    simp only [Endpoints.run, Endpoints.step, hask, hlast, Endpoints.answer, ht]
    refine ⟨fun e => ?_, some n, by rw [hresult]; rfl⟩
    rw [hfind]
    split
    · next he =>
      rw [he]
      simp [cacheAt?, hr]
    · next he =>
      rw [hnet, eq_comm]
      refine cacheAt?_congr (s := s) rfl fun m hm => ?_
      have hne : m ≠ n := by
        rintro rfl
        rw [h.guarded] at hm hr
        exact he (Option.some.inj (hm.symm.trans hr))
      simp [hne]

end Sound

/-- What holds of the endpoints at any time, and of whatever is done next. -/
structure Separate (s : Endpoints) (record : List Entry) : Prop where
  /-- An address has one task at most, and this the only guard for the address. -/
  one : ∀ e n, s.registry.find? e = some n ↔ s.guards.find? n = some e
  recorded : ∀ e n, s.registry.find? e = some n ↔ IsBound n e record
  /-- The task runs, with a cache of the participant for which it was bound. -/
  runs : ∀ e n, s.registry.find? e = some n → ∃ t, s.running.find? n = some t ∧ t.address = e ∧
    s.cacheAt? e = some t.cache ∧ ∃ a, a.endpoint = e ∧ .bound n a t.cache.owner ∈ record
  bindTaken : ∀ a owner n, s.registry.find? a.endpoint = some n → s.step (.bind a owner) =
    (s, [.refused a (.transport ("Cache endpoint " ++ a.endpoint ++ " is already bound"))])
  bindFree : ∀ a owner, s.registry.find? a.endpoint = none →
    (s.step (.bind a owner)).2 = [.bound s.next a owner] ∧
      (s.step (.bind a owner)).1.cacheAt? a.endpoint = some (.empty owner) ∧
      ∀ x ∈ record, x.binds s.next = false
  drop : ∀ n e, s.guards.find? n = some e → (s.step (.drop n)).2 = [.unbound n e] ∧
    ∀ e', (s.step (.drop n)).1.registry.find? e' = if e' = e then none else s.registry.find? e'
  askUnbound : ∀ a r, s.registry.find? a.endpoint = none →
    s.step (.ask a r) = (s, [.answered none a r (.error (unboundAt a))])
  /-- A request whose task has ended in the meantime fails. -/
  gone : ∀ i q, s.pending[i]? = some q → s.running.find? q.endpoint = none →
    (s.step (.serve i)).2 = [.answered none q.address q.errand (.error (goneAt q.address))]
  misrouted : ∀ i q b bound owner token id batch, s.pending[i]? = some q →
    q.errand = .put owner token id batch → .bound q.endpoint b bound ∈ record → bound ≠ owner →
      ∃ server text, (s.step (.serve i)).2 =
        [.answered server q.address q.errand (.error (.transport text))]
  /-- Requests that fail change no cache, neither at their address nor elsewhere. -/
  failed : ∀ i server a r y, (s.step (.serve i)).2 = [.answered server a r (.error y)] →
    ∀ n, (s.step (.serve i)).1.running.find? n = s.running.find? n
  /-- A request is served at its address, and by no task but the one that it found. -/
  served : ∀ i q, s.pending[i]? = some q →
    (∀ t, s.running.find? q.endpoint = some t → t.address = q.address.endpoint) ∧
      ∀ n, n ≠ q.endpoint → (s.step (.serve i)).1.running.find? n = s.running.find? n
  frame : ∀ action e, action.address? s ≠ some e →
    (s.step action).1.cacheAt? e = s.cacheAt? e
  /-- What is pulled was put at that address under that id, since the task was bound that was bound
  there when the request was made. -/
  pulled : ∀ i server a id batch,
    (s.step (.serve i)).2 = [.answered server a (.pull id) (.ok (.partition batch))] →
      ∃ n, server = some n ∧
        (∃ before after, record = before ++ .asked n a (.pull id) :: after ∧
          IsBound n a.endpoint before) ∧
        ∃ b owner token, b.endpoint = a.endpoint ∧
          .answered server b (.put owner token id batch) (.ok .stored) ∈ since n record
  /-- Binding, dropping and whole requests are those of the interconnect. -/
  bindShows : ∀ net, s.Shows net → ∀ a owner,
    (∃ net', net.bind a owner = .ok net' ∧ (s.step (.bind a owner)).1.Shows net' ∧
        (s.step (.bind a owner)).2 = [.bound s.next a owner]) ∨
      ∃ x, net.bind a owner = .error x ∧ s.step (.bind a owner) = (s, [.refused a x])
  dropShows : ∀ net, s.Shows net → ∀ n a, s.guards.find? n = some a.endpoint →
    (s.step (.drop n)).1.Shows (net.unbind a)
  requestShows : ∀ net, s.Shows net → ∀ a r,
    (s.run [.ask a r, .serve s.pending.length]).1.Shows (net.request a r).2 ∧
      ∃ server, (s.run [.ask a r, .serve s.pending.length]).2.getLast? =
        some (.answered server a r (net.request a r).1)

namespace Sound

theorem pulled (h : Sound s record) (hq : Sent q record)
    (hp : (s.answer q).2 = [.answered server a (.pull id) (.ok (.partition batch))]) :
    ∃ n, server = some n ∧
      (∃ before after, record = before ++ .asked n a (.pull id) :: after ∧
        IsBound n a.endpoint before) ∧
      ∃ b owner token, b.endpoint = a.endpoint ∧
        .answered server b (.put owner token id batch) (.ok .stored) ∈ since n record := by
  rw [Endpoints.answer] at hp
  split at hp
  · next t ht =>
    simp only [List.cons.injEq, Entry.answered.injEq, and_true] at hp
    obtain ⟨hserver, haddress, herrand, hresult⟩ := hp
    have hhandles := t.cache.handles q.errand
    rw [hresult, herrand] at hhandles
    obtain ⟨p, hstored, hbatch⟩ := hhandles.pulled
    obtain ⟨b, hb, hput⟩ := (h.hosted _ _ ht).put id p hstored
    have hte := h.address_eq hq ht
    obtain ⟨before, after, hrecord, hbound⟩ := hq
    rw [herrand, haddress] at hrecord
    rw [haddress] at hbound hte
    rw [← hserver]
    rw [hbatch] at hput
    exact ⟨_, rfl, ⟨before, after, hrecord, hbound⟩, b, _, p.token, hb.trans hte, hput⟩
  · simp at hp

theorem misrouted (h : Sound s record) (hr : q.errand = .put owner token id batch)
    (hb : .bound q.endpoint b bound ∈ record) (hne : bound ≠ owner) :
    ∃ server text, (s.answer q).2 =
      [.answered server q.address q.errand (.error (.transport text))] := by
  rw [Endpoints.answer]
  split
  · next t ht =>
    obtain ⟨_, -, hmem⟩ := (h.hosted _ _ ht).bound
    obtain ⟨-, rfl⟩ := h.once _ _ _ _ _ hb hmem
    rw [hr, PartitionCache.handle_of_other_owner hne]
    exact ⟨_, _, rfl⟩
  · exact ⟨_, _, rfl⟩

theorem separate (h : Sound s record) : Separate s record := by
  have hserve : ∀ {i q}, s.pending[i]? = some q →
      s.step (.serve i) = { s with pending := s.pending.eraseIdx i }.answer q ∧ Sent q record := by
    intro i q hq
    exact ⟨by rw [Endpoints.step, hq], h.sent q (List.mem_of_getElem? hq)⟩
  exact {
    one := h.guarded
    recorded := fun e n => (h.guarded e n).trans (h.recorded n e)
    runs := by
      intro e n hn
      obtain ⟨t, ht, hte, hcache⟩ := h.exists_cacheAt? hn
      obtain ⟨a, ha, hmem⟩ := (h.hosted n t ht).bound
      exact ⟨t, ht, hte, hcache, a, ha.trans hte, hmem⟩
    bindTaken := fun a owner n hn => bind_taken owner hn
    bindFree := by
      intro a owner hfree
      obtain ⟨hentry, hcache⟩ := bind_free owner hfree
      exact ⟨hentry, hcache, fun x hx => h.not_binds_next hx⟩
    drop := by
      intro n e hn
      rw [Endpoints.step, Endpoints.drop, hn]
      exact ⟨rfl, fun e' => FiniteMap.find?_erase ..⟩
    askUnbound := fun a r hfree => ask_unbound r hfree
    gone := by
      intro i q hq hgone
      rw [(hserve hq).1, answer_gone (s := { s with pending := s.pending.eraseIdx i }) hgone]
    misrouted := by
      intro i q b bound owner token id batch hq hr hb hne
      rw [(hserve hq).1]
      exact (sound_forget h i).misrouted hr hb hne
    failed := by
      intro i server a r y hy n
      cases hq : s.pending[i]? with
      | none => rw [Endpoints.step, hq]
      | some q =>
        rw [(hserve hq).1] at hy ⊢
        exact running_answer_of_error hy n
    served := by
      intro i q hq
      rw [(hserve hq).1]
      exact ⟨fun t ht => h.address_eq (hserve hq).2 ht, fun n hn => running_answer hn⟩
    frame := fun action e he => h.cacheAt?_step action he
    pulled := by
      intro i server a id batch hp
      cases hq : s.pending[i]? with
      | none =>
        rw [Endpoints.step, hq] at hp
        cases hp
      | some q =>
        rw [(hserve hq).1] at hp
        exact (sound_forget h i).pulled (hserve hq).2 hp
    bindShows := fun net hnet a owner => h.bind_shows hnet a owner
    dropShows := fun net hnet n a hn => h.drop_shows hnet hn
    requestShows := fun net hnet a r => h.request_shows hnet a r }

end Sound

end Endpoints

theorem append_colon_inj {xs ys ds es : List Char} (hd : ':' ∉ ds) (he : ':' ∉ es)
    (h : xs ++ ':' :: ds = ys ++ ':' :: es) : xs = ys ∧ ds = es := by
  have htail : ∀ {m ds es : List Char}, ':' ∉ ds → ':' :: ds = m ++ ':' :: es → m = [] := by
    intro m ds es hd hm
    cases m with
    | nil => rfl
    | cons c m =>
      cases hm
      exact absurd (List.mem_append_right _ (List.mem_cons_self ..)) hd
  rcases List.append_eq_append_iff.1 h with ⟨m, rfl, hm⟩ | ⟨m, rfl, hm⟩
  · cases htail hd hm
    rw [List.append_nil]
    exact ⟨rfl, (List.cons.inj hm).2⟩
  · cases htail he hm
    rw [List.append_nil]
    exact ⟨rfl, (List.cons.inj hm).2.symm⟩

/-- Addresses are bound by ip and port. -/
theorem Address.endpoint_eq_iff {a b : Address} :
    a.endpoint = b.endpoint ↔ a.ip = b.ip ∧ a.port = b.port := by
  constructor
  · intro h
    have hdigits : ∀ n, ':' ∉ Decimal.ofNat n := fun n hc => by
      have hd := Decimal.isDigit_of_mem_ofNat hc
      simp [Char.isDigit] at hd
    have hchars := congrArg String.toList h
    simp only [endpoint, Decimal.natText, String.toList_append, String.toList_ofList,
      List.append_assoc] at hchars
    obtain ⟨hip, hport⟩ := append_colon_inj (hdigits _) (hdigits _) hchars
    exact ⟨String.toList_injective hip, Decimal.ofNat_injective hport⟩
  · rintro ⟨hip, hport⟩
    rw [endpoint, endpoint, hip, hport]

/-- Endpoints are exclusive and separate, after any number of actions in any order. -/
theorem endpoints_separate (actions : List Endpoints.Action) :
    (Endpoints.empty.run actions).1.Separate (Endpoints.empty.run actions).2 ∧
      ∀ a b : Address, a.endpoint = b.endpoint ↔ a.ip = b.ip ∧ a.port = b.port :=
  ⟨(Endpoints.sound_run Endpoints.sound_empty actions).separate, fun _ _ => Address.endpoint_eq_iff⟩

/-- A task that is still to end serves what it was asked for, from its own cache: the cache that is
bound at its address by then has nothing. -/
example :
    let a : Address := ⟨"1", "0.0.0.0", 4001⟩
    let b : Batch := ⟨[], [[]]⟩
    ((Endpoints.empty.run [.bind a ⟨1⟩, .ask a (.put ⟨1⟩ ⟨7⟩ ⟨"m"⟩ b), .serve 0,
      .ask a (.pull ⟨"m"⟩), .drop 0, .bind a ⟨2⟩, .ask a (.pull ⟨"m"⟩), .serve 1,
      .serve 0]).2.filterMap fun
        | .answered (some n) _ _ (.ok r) => some (n, r)
        | _ => none) = [(0, .stored), (0, .partition b)] := by
  decide

end ShardQuery
