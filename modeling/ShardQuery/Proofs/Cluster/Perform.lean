import ShardQuery.Proofs.Cluster.Attend
import ShardQuery.Proofs.List
import ShardQuery.Proofs.Table.Plan

namespace ShardQuery

namespace Outcome

variable {ks : List Nat} {r : Nat → Except FailureKind α}

def inOrder (ks : List Nat) (r : Nat → Except FailureKind α) :
    List (ParticipantId × Except FailureKind α) :=
  ks.map fun k => (⟨k⟩, r k)

theorem isComplete_ofEnded_iff {ended : List (ParticipantId × Except FailureKind α)} :
    (ofEnded ended).isComplete = true ↔ ∀ e ∈ ended, ∃ a, e.2 = .ok a := by
  rw [isComplete, ofEnded, List.isEmpty_iff, ← List.length_eq_zero_iff, List.length_mergeSort,
    List.length_eq_zero_iff, List.filterMap_eq_nil_iff]
  refine forall₂_congr fun e _ => ?_
  obtain ⟨p, r⟩ := e
  cases r with
  | ok a => exact ⟨fun _ => ⟨a, rfl⟩, fun _ => rfl⟩
  | error x =>
    constructor
    · intro h
      cases h
    · rintro ⟨a, h⟩
      cases h

theorem isComplete_iff :
    (ofEnded (inOrder ks r)).isComplete = true ↔ ∀ k ∈ ks, ∃ a, r k = .ok a := by
  rw [isComplete_ofEnded_iff, inOrder, List.forall_mem_map]

theorem completed_eq {a : Nat → α} (h : ∀ k ∈ ks, r k = .ok (a k)) :
    (ofEnded (inOrder ks r)).completed = ks.map fun k => (⟨k⟩, a k) := by
  induction ks with
  | nil => rfl
  | cons k ks ih =>
    have hk := h k (List.mem_cons_self ..)
    have hks := ih fun j hj => h j (List.mem_cons_of_mem _ hj)
    simp only [ofEnded, inOrder, List.map_cons, List.filterMap_cons, hk, completed?] at hks ⊢
    rw [hks]

theorem mem_completedIds_iff :
    ⟨k⟩ ∈ (ofEnded (inOrder ks r)).completedIds ↔ k ∈ ks ∧ ∃ a, r k = .ok a := by
  simp only [completedIds, ofEnded, inOrder, List.mem_map, List.mem_filterMap]
  constructor
  · rintro ⟨_, ⟨_, ⟨j, hj, rfl⟩, hc⟩, hp⟩
    cases hr : r j with
    | ok a =>
      rw [hr] at hc
      cases hc
      cases hp
      exact ⟨hj, a, hr⟩
    | error x =>
      rw [hr] at hc
      cases hc
  · rintro ⟨hk, a, ha⟩
    exact ⟨(⟨k⟩, a), ⟨_, ⟨k, hk, rfl⟩, by rw [ha]; rfl⟩, rfl⟩

theorem result_of_complete {o : Outcome α} (h : o.isComplete = true) (operation : String) :
    o.result operation = .ok o.completed := by
  rw [result, h]
  rfl

theorem result_of_incomplete {o : Outcome α} (h : ¬ o.isComplete = true) (operation : String) :
    o.result operation = .error (.barrierFailed operation o.failures) := by
  rw [result, if_neg h]

end Outcome

namespace Engine

variable {e : Engine} {name : String}

def without (e : Engine) (name : String) : Engine := { e with tables := e.tables.erase name }

@[simp, grind =]
theorem find?_without (e : Engine) (name other : String) :
    (e.without name).tables.find? other = if other = name then none else e.tables.find? other :=
  FiniteMap.find?_erase ..

@[simp, grind =]
theorem holds_without (e : Engine) (name other : String) :
    (e.without name).holds other = (decide (other ≠ name) && e.holds other) :=
  FiniteMap.contains_erase ..

theorem drop_of_holds (h : e.holds name = true) : e.drop name = .ok (e.without name) := if_pos h

theorem drop_of_not_holds (h : e.holds name = false) :
    e.drop name = .error (.tableNotFound name) := by
  rw [drop, h]
  rfl

theorem without_of_not_holds (h : e.holds name = false) : e.without name = e := by
  have hkeys : name ∉ e.tables.keys :=
    (FiniteMap.find?_eq_none_iff ..).1 (Option.not_isSome_iff_eq_none.1 (Bool.eq_false_iff.1 h))
  rw [without, FiniteMap.erase_of_notMem _ hkeys]

end Engine

namespace Cluster

/-- An operation whose calls, and then those that undo it, end in some order. -/
inductive Performs (c : Cluster) (op : Operation) :
    Cluster → Except ClusterError Answer → Prop where
  | answered (hs : c.start op = (d, .answered answer)) : Performs c op d answer
  | finished (hs : c.start op = (d, .waiting calls goal)) (ht : List.Perm turns calls)
      (ha : d.attendAll turns = (d', ended))
      (hc : d'.conclude (.ofEnded ended) goal = (d'', concluded))
      (hu : List.Perm undos concluded.undo) :
      Performs c op (d''.attendAll undos).1 concluded.answer

/-- Workers that answer one after another are a case of it. -/
theorem performs_perform (c : Cluster) (op : Operation) :
    c.Performs op (c.perform op).1 (c.perform op).2 := by
  rw [perform]
  cases hs : c.start op with
  | mk d begun =>
    cases begun with
    | answered answer => exact .answered hs
    | waiting calls goal => exact .finished hs (.refl _) rfl rfl (.refl _)

theorem Performs.answered_eq {c d d' : Cluster} (hop : c.Performs op d' answer')
    (hs : c.start op = (d, .answered answer)) : d' = d ∧ answer' = answer := by
  cases hop with
  | answered hs' =>
    rw [hs] at hs'
    cases hs'
    exact ⟨rfl, rfl⟩
  | finished hs' _ _ _ _ =>
    rw [hs] at hs'
    cases hs'

theorem Performs.waiting_eq {c d d' : Cluster} (hop : c.Performs op d' answer)
    (hs : c.start op = (d, .waiting calls goal)) :
    ∃ (turns : List Call) (m : Cluster) (ended : List (ParticipantId × Except FailureKind Answer))
      (m' : Cluster) (concluded : Concluded) (undos : List Call),
      turns.Perm calls ∧ d.attendAll turns = (m, ended) ∧
      m.conclude (.ofEnded ended) goal = (m', concluded) ∧ undos.Perm concluded.undo ∧
      d' = (m'.attendAll undos).1 ∧ answer = concluded.answer := by
  cases hop with
  | answered hs' =>
    rw [hs] at hs'
    cases hs'
  | finished hs' ht ha hc hu =>
    rw [hs] at hs'
    cases hs'
    exact ⟨_, _, _, _, _, _, ht, ha, hc, hu, rfl, rfl⟩

structure Keeps (c c' : Cluster) : Prop where
  files : c'.files = c.files
  workers : c'.workers.length = c.workers.length

theorem Keeps.trans (h : Keeps c d) (h' : Keeps d e) : Keeps c e :=
  ⟨h'.files.trans h.files, h'.workers.trans h.workers⟩

theorem keeps_hosting (c : Cluster) (es : Nat → Engine) (net : Interconnect) :
    c.Keeps (c.hosting es net) :=
  ⟨rfl, length_workers_hosting ..⟩

variable {c d : Cluster} {es : Nat → Engine}

theorem advanced_perm (files : FileStore) (D : Nat → Duty) (es : Nat → Engine)
    (h : List.Perm ks js) : advanced files D es ks = advanced files D es js := by
  funext k
  simp only [advanced, h.mem_iff]

/-- Calls that end in some order have all ended as the engines say that were there before. -/
theorem Hosts.attendAll_perm (h : c.Hosts es) {D : Nat → Duty} {ks : List Nat} (hn : ks.Nodup)
    (hk : ∀ k ∈ ks, k ≤ c.workers.length ∧ (D k).Suits k ∧
      ∀ t ∈ (D k).token?, c.net.Lacks t.messageId)
    (ht : List.Perm turns (ks.map fun k => (D k).call k)) (ha : c.attendAll turns = (d, ended)) :
    d.Hosts (advanced c.files D es ks) ∧ c.Keeps d ∧
      ∃ js : List Nat, js.Perm ks ∧
        ended = Outcome.inOrder js fun k => (D k).outcome c.files (es k) := by
  obtain ⟨js, hjs, rfl⟩ := exists_map_of_perm ht
  obtain ⟨m, hm, he⟩ := h.attendAll (hjs.nodup_iff.2 hn) fun k hmem => hk k (hjs.mem_iff.1 hmem)
  rw [ha, advanced_perm _ _ _ hjs] at he
  cases he
  exact ⟨h.hosting (fun k hle => isSound_advanced (h.engine k hle) ..) hm, keeps_hosting .., js,
    hjs, rfl⟩

def numbers (c : Cluster) : List Nat := (List.range c.workers.length).map (· + 1)

theorem mem_numbers : k ∈ c.numbers ↔ k ≠ 0 ∧ k ≤ c.workers.length := by
  simp only [numbers, List.mem_map, List.mem_range]
  constructor
  · rintro ⟨i, hi, rfl⟩
    omega
  · intro h
    exact ⟨k - 1, by omega, by omega⟩

theorem nodup_numbers (c : Cluster) : c.numbers.Nodup :=
  List.Nodup.map (fun _ _ h => Nat.succ.inj h) List.nodup_range

theorem zero_notMem_numbers (c : Cluster) : 0 ∉ c.numbers := fun h => (mem_numbers.1 h).1 rfl

/-- The coordinator does its part by itself, and then some workers do theirs. -/
theorem advanced_update (files : FileStore) (D : Nat → Duty) (es : Nat → Engine) (e : Engine)
    (hks : 0 ∉ ks) (k : Nat) :
    advanced files D (Function.update es 0 e) ks k =
      if k = 0 then e else if k ∈ ks then (D k).advance files (es k) else es k := by
  by_cases hz : k = 0
  · subst hz
    rw [advanced, if_neg hks, Function.update_self, if_pos rfl]
  · rw [advanced, Function.update_of_ne hz, if_neg hz]

theorem advanced_numbers (c : Cluster) (files : FileStore) (D : Nat → Duty) (es : Nat → Engine)
    (e : Engine) (hk : k ≤ c.workers.length) :
    advanced files D (Function.update es 0 e) c.numbers k =
      if k = 0 then e else (D k).advance files (es k) := by
  rw [advanced_update _ _ _ _ c.zero_notMem_numbers]
  by_cases hz : k = 0
  · rw [if_pos hz, if_pos hz]
  · rw [if_neg hz, if_neg hz, if_pos (mem_numbers.2 ⟨hz, hk⟩)]

theorem Hosts.workerIds_eq (h : c.Hosts es) : c.workerIds = c.numbers.map ParticipantId.mk := by
  rw [h.workerIds, numbers, List.map_map]
  rfl

theorem Hosts.callEach_eq (h : c.Hosts es) (f : ParticipantId → α → Call) (g : Nat → α) :
    c.callEach f ((List.range c.workers.length).map fun i => g (i + 1)) =
      c.numbers.map fun k => f ⟨k⟩ (g k) := by
  rw [callEach, h.workerIds, List.zipWith_map, List.zipWith_self, numbers, List.map_map]
  rfl

theorem Hosts.ready_eq (h : c.Hosts es) (operation : String) : c.ready operation = .ok () :=
  if_pos h.ready

/-- The tokens that a cluster gives to its workers from a number on. -/
def tokenFrom (issued k : Nat) : CorrelationToken := ⟨issued + k⟩

theorem issue_eq (c : Cluster) :
    c.issue = ((List.range c.workers.length).map fun i => tokenFrom c.tokens.issued (i + 1),
      { c with tokens := ⟨c.tokens.issued + c.workers.length⟩ }) := rfl

section Create

variable {part : Nat → Batch}

theorem Hosts.start_create (h : c.Hosts es)
    (hp : batch.split (c.workers.length + 1) =
      .ok ((List.range (c.workers.length + 1)).map part)) (name : String) :
    c.start (.create name batch) =
      ({ c with
          own := (es 0).withTable name (part 0)
          tokens := ⟨c.tokens.issued + c.workers.length⟩ },
        .waiting
          (c.numbers.map fun k => (Duty.keep name (tokenFrom c.tokens.issued k) (part k)).call k)
          (.created name)) := by
  have hshares : List.zipWith (fun t b => Share.mk t t.messageId b)
      ((List.range c.workers.length).map fun i => tokenFrom c.tokens.issued (i + 1))
      ((List.range (c.workers.length + 1)).map part).tail =
        (List.range c.workers.length).map fun i =>
          (⟨tokenFrom c.tokens.issued (i + 1), (tokenFrom c.tokens.issued (i + 1)).messageId,
            part (i + 1)⟩ : Share) := by
    rw [tail_map_range, List.zipWith_map, List.zipWith_self]
  have hhead : ((List.range (c.workers.length + 1)).map part).headD (.empty batch.schema) =
      part 0 := by
    rw [List.range_succ_eq_map]
    rfl
  have hown : c.own.create name (part 0) = .ok ((es 0).withTable name (part 0)) := by
    rw [h.seats.own, (h.engine 0 (Nat.zero_le _)).create_eq]
  simp only [start, beginCreate, h.ready_eq, Except.ok_bind, h.size, hp, lift, Except.mapError,
    issue_eq, hshares, hhead, hown, answering]
  rw [Hosts.callEach_eq (h.withTokens (Nat.le_add_right _ c.workers.length)) _ fun k =>
    (⟨tokenFrom c.tokens.issued k, (tokenFrom c.tokens.issued k).messageId, part k⟩ : Share)]
  rfl

/-- A batch is split, and each participant has its share of it as a table. -/
theorem Hosts.performs_create (h : c.Hosts es)
    (hp : batch.split (c.workers.length + 1) =
      .ok ((List.range (c.workers.length + 1)).map part))
    (hop : c.Performs (.create name batch) d answer) :
    answer = .ok .done ∧ c.Keeps d ∧ ∃ fs, d.Hosts fs ∧
      ∀ k ≤ c.workers.length, fs k = (es k).withTable name (part k) := by
  have hstart := h.start_create hp name
  have h' := h.withOwn
    (Duty.isSound_withTable (h.engine 0 (Nat.zero_le _)) name (part 0))
    (Nat.le_add_right c.tokens.issued c.workers.length)
  obtain ⟨turns, m, ended, m', concluded, undos, ht, ha, hc, hu, rfl, rfl⟩ := hop.waiting_eq hstart
  obtain ⟨hd, hkeep, js, _, rfl⟩ := h'.attendAll_perm c.nodup_numbers (fun k hk => by
    obtain ⟨hz, hle⟩ := mem_numbers.1 hk
    refine ⟨hle, hz, ?_⟩
    rintro t ⟨⟩
    exact h.lacks _ (by rw [tokenFrom]; exact Nat.lt_add_of_pos_right (Nat.pos_of_ne_zero hz)))
    ht ha
  have hcomplete := Outcome.isComplete_iff.2 fun k (_ : k ∈ js) =>
    ⟨Answer.done, (rfl : (Duty.keep name (tokenFrom c.tokens.issued k) (part k)).outcome c.files
      (Function.update es 0 ((es 0).withTable name (part 0)) k) = .ok .done)⟩
  simp only [conclude, hcomplete, Outcome.result_of_complete hcomplete] at hc
  cases hc
  cases hu.eq_nil
  refine ⟨rfl, ⟨hkeep.files, hkeep.workers⟩, _, hd, fun k hle => ?_⟩
  rw [advanced_numbers c _ _ _ _ hle]
  split
  · next hz => rw [hz]
  · rfl

end Create

/-- An engine that is told to drop a table does not have it afterwards, whether it had it or not. -/
theorem advance_drop (files : FileStore) (e : Engine) (name : String) :
    (Duty.drop name).advance files e = e.without name := by
  rw [Duty.advance, Duty.meet]
  cases hn : e.holds name with
  | true =>
    rw [Engine.drop_of_holds hn]
    rfl
  | false =>
    rw [Engine.drop_of_not_holds hn, Engine.without_of_not_holds hn]
    rfl

theorem outcome_drop (files : FileStore) (e : Engine) (name : String) :
    (Duty.drop name).outcome files e =
      if e.holds name then .ok .done
      else .error (.rejected (QueryError.tableNotFound name).message) := by
  rw [Duty.outcome, Duty.meet]
  cases hn : e.holds name with
  | true =>
    rw [Engine.drop_of_holds hn]
    rfl
  | false =>
    rw [Engine.drop_of_not_holds hn]
    rfl

/-- The coordinator and those that did their part drop a table. -/
theorem Hosts.rollBack (h : c.Hosts es) (name : String) (created : List ParticipantId)
    (hu : List.Perm undos (c.rollBack name created).2) :
    c.Keeps ((c.rollBack name created).1.attendAll undos).1 ∧
      ∃ fs, ((c.rollBack name created).1.attendAll undos).1.Hosts fs ∧
        ∀ k ≤ c.workers.length, fs k =
          if k = 0 ∨ ⟨k⟩ ∈ created then (es k).without name else es k := by
  have hroll : c.rollBack name created =
      ({ c with own := (Duty.drop name).advance c.files (es 0) },
        (c.numbers.filter fun k => created.contains ⟨k⟩).map fun k => (Duty.drop name).call k) := by
    rw [Cluster.rollBack, h.workerIds_eq, List.filter_map, List.map_map, h.seats.own,
      Duty.advance, Duty.meet]
    cases (es 0).drop name <;> rfl
  rw [hroll] at hu ⊢
  have h' := h.withOwn (Duty.isSound_advance (h.engine 0 (Nat.zero_le _)) c.files (.drop name))
    (Nat.le_refl _)
  obtain ⟨hd, hkeep, -⟩ := h'.attendAll_perm (D := fun _ => .drop name)
    (c.nodup_numbers.filter _) (fun k hk => by
      obtain ⟨hz, hle⟩ := mem_numbers.1 (List.mem_of_mem_filter hk)
      exact ⟨hle, hz, fun t ht => by cases ht⟩) hu rfl
  refine ⟨⟨hkeep.files, hkeep.workers⟩, _, hd, fun k hle => ?_⟩
  rw [advanced_update _ _ _ _ fun hm => c.zero_notMem_numbers (List.mem_of_mem_filter hm)]
  by_cases hz : k = 0
  · rw [if_pos hz, if_pos (.inl hz), hz, advance_drop]
  · have hm : k ∈ c.numbers.filter (fun k => created.contains ⟨k⟩) ↔ ⟨k⟩ ∈ created := by
      rw [List.mem_filter, List.contains_iff_mem]
      exact ⟨And.right, fun h => ⟨mem_numbers.2 ⟨hz, hle⟩, h⟩⟩
    simp only [hm, hz, false_or, if_false, advance_drop]

section Source

variable {slice : Nat → Slice}

theorem Hosts.start_source_error (h : c.Hosts es)
    (ht : t.divide c.files (c.workers.length + 1) = .error x) :
    c.start (.createFromSource t) = (c, .answered (.error (.engine x))) := by
  rw [TableReference.divide] at ht
  simp only [start, beginSource, h.ready_eq, Except.ok_bind, h.size, lift]
  cases hv : t.validate with
  | error y =>
    rw [hv] at ht
    cases ht
    rfl
  | ok _ =>
    rw [hv, Except.ok_bind] at ht
    cases hr : t.resolve c.files with
    | error y =>
      rw [hr] at ht
      cases ht
      rfl
    | ok t' =>
      rw [hr, Except.ok_bind] at ht
      simp only [Except.mapError, Except.ok_bind, ht]
      rfl

theorem Hosts.start_source (h : c.Hosts es)
    (ht : t.divide c.files (c.workers.length + 1) =
      .ok ((List.range (c.workers.length + 1)).map slice)) :
    c.start (.createFromSource t) =
      ({ c with own := (Duty.load (slice 0)).advance c.files (es 0) },
        .waiting (c.numbers.map fun k => (Duty.load (slice k)).call k)
          (.loaded t.name (((slice 0).load c.files).map fun _ => ()))) := by
  obtain ⟨_, hv, ht⟩ := Except.bind_eq_ok_iff.1 ht
  obtain ⟨t', hr, ht⟩ := Except.bind_eq_ok_iff.1 ht
  have hname := TableReference.name_resolve hr
  have hcalls := h.callEach_eq (fun p s => ⟨p, .ask none (.createFromSource s)⟩) slice
  rw [List.range_succ_eq_map, List.map_cons, List.map_map] at ht
  simp only [start, beginSource, h.ready_eq, Except.ok_bind, h.size, lift, hv, hr, ht,
    Except.mapError]
  rw [h.seats.own, (h.engine 0 (Nat.zero_le _)).createFromSource_eq, Duty.advance, Duty.meet,
    hname]
  cases (slice 0).load c.files with
  | ok b =>
    simp only [Except.map, Function.comp_def, Nat.succ_eq_add_one]
    rw [hcalls]
    rfl
  | error x =>
    simp only [Except.map, Function.comp_def, Nat.succ_eq_add_one]
    rw [hcalls, ← h.seats.own]
    rfl

theorem outcome_load (files : FileStore) (e : Engine) (s : Slice) :
    (∃ a, (Duty.load s).outcome files e = .ok a) ↔ ∃ b, s.load files = .ok b := by
  rw [Duty.outcome, Duty.meet]
  cases s.load files with
  | ok b => exact ⟨fun _ => ⟨b, rfl⟩, fun _ => ⟨.done, rfl⟩⟩
  | error x =>
    constructor
    · rintro ⟨a, ha⟩
      cases ha
    · rintro ⟨b, hb⟩
      cases hb

theorem find?_advance_load (files : FileStore) (e : Engine) (s : Slice) (hn : other ≠ s.table.name) :
    ((Duty.load s).advance files e).tables.find? other = e.tables.find? other := by
  rw [Duty.advance, Duty.meet]
  cases s.load files with
  | ok b => exact (Engine.find?_withTable ..).trans (if_neg hn)
  | error x => rfl

theorem advance_load_error {files : FileStore} {s : Slice} (hs : s.load files = .error x)
    (e : Engine) : (Duty.load s).advance files e = e := by
  rw [Duty.advance, Duty.meet, hs]
  rfl

theorem advance_load {files : FileStore} {s : Slice} (hs : s.load files = .ok b) (e : Engine) :
    (Duty.load s).advance files e = e.withTable s.table.name b := by
  rw [Duty.advance, Duty.meet, hs]
  rfl

theorem conclude_loaded (d : Cluster) (name : String) {o : Outcome Answer}
    (ho : o.isComplete = true) :
    d.conclude o (.loaded name (.ok ())) = (d, ⟨[], .ok .done⟩) := by
  simp only [conclude, ho, Outcome.result_of_complete ho]
  rfl

theorem conclude_unloaded (d : Cluster) (name : String) {o : Outcome Answer}
    {result : Except QueryError Unit} (h : ¬ (o.isComplete = true ∧ result = .ok ())) :
    ∃ x, d.conclude o (.loaded name result) =
      ((d.rollBack name o.completedIds).1,
        ⟨(d.rollBack name o.completedIds).2, .error x⟩) := by
  cases result with
  | error x =>
    refine ⟨.engine x, ?_⟩
    have hb : (o.isComplete && (Except.error x : Except QueryError Unit).toOption.isSome) =
        false := Bool.and_false _
    simp only [conclude, hb]
    rfl
  | ok u =>
    have ho : ¬ o.isComplete = true := fun ho => h ⟨ho, rfl⟩
    refine ⟨.barrierFailed "create table" o.failures, ?_⟩
    have hb : (o.isComplete && (Except.ok u : Except QueryError Unit).toOption.isSome) = false := by
      rw [Bool.eq_false_iff.2 ho]
      rfl
    simp only [conclude, hb, Outcome.result_of_incomplete ho]
    rfl

theorem Hosts.loads (h : c.Hosts es)
    (ha : Cluster.attendAll { c with own := (Duty.load (slice 0)).advance c.files (es 0) } turns =
      (d, ended))
    (ht : List.Perm turns (c.numbers.map fun k => (Duty.load (slice k)).call k)) :
    c.Keeps d ∧ ∃ gs, d.Hosts gs ∧
      (∀ k ≤ c.workers.length, gs k = (Duty.load (slice k)).advance c.files (es k)) ∧
      ∃ (js : List Nat) (fs : Nat → Engine), js.Perm c.numbers ∧
        ended = Outcome.inOrder js fun k => (Duty.load (slice k)).outcome c.files (fs k) := by
  have h' := h.withOwn (Duty.isSound_advance (h.engine 0 (Nat.zero_le _)) c.files
    (.load (slice 0))) (Nat.le_refl _)
  obtain ⟨hd, hkeep, js, hjs, rfl⟩ := h'.attendAll_perm (D := fun k => .load (slice k))
    c.nodup_numbers (fun k hk => by
      obtain ⟨hz, hle⟩ := mem_numbers.1 hk
      exact ⟨hle, hz, fun t ht => by cases ht⟩) ht ha
  refine ⟨⟨hkeep.files, hkeep.workers⟩, _, hd, fun k hle => ?_, js, _, hjs, rfl⟩
  rw [advanced_numbers c _ _ _ _ hle]
  split
  · next hz => rw [hz]
  · rfl

theorem mem_completedIds_loads {fs : Nat → Engine} {js : List Nat} (hjs : js.Perm c.numbers)
    (hz : k ≠ 0) (hle : k ≤ c.workers.length) :
    ⟨k⟩ ∈ (Outcome.ofEnded (Outcome.inOrder js fun k =>
      (Duty.load (slice k)).outcome c.files (fs k))).completedIds ↔
        ∃ b, (slice k).load c.files = .ok b := by
  rw [Outcome.mem_completedIds_iff, hjs.mem_iff, mem_numbers, outcome_load]
  constructor
  · intro h
    exact h.2
  · intro h
    exact ⟨⟨hz, hle⟩, h⟩

theorem not_complete_of_error (fs : Nat → Engine) {js : List Nat} (hjs : js.Perm c.numbers)
    (hle : k ≤ c.workers.length) (hx : (slice k).load c.files = .error x) :
    ¬ ((Outcome.ofEnded (Outcome.inOrder js fun k =>
      (Duty.load (slice k)).outcome c.files (fs k))).isComplete = true ∧
        ((slice 0).load c.files).map (fun _ => ()) = .ok ()) := by
  rintro ⟨hcomplete, hok⟩
  have hloads : ∃ b, (slice k).load c.files = .ok b := by
    by_cases hz : k = 0
    · subst hz
      obtain ⟨b, hb, _⟩ := Except.map_eq_ok_iff.1 hok
      exact ⟨b, hb⟩
    · have hk := hjs.mem_iff.2 (mem_numbers.2 ⟨hz, hle⟩)
      exact (outcome_load ..).1 (Outcome.isComplete_iff.1 hcomplete k hk)
  obtain ⟨b, hb⟩ := hloads
  rw [hx] at hb
  cases hb

/--
The files of a table are divided. If all participants can load theirs, each has what it loaded as
a table; else the coordinator and those that could are without the table, and the others have what
they had.
-/
theorem Hosts.performs_source (h : c.Hosts es)
    (ht : t.divide c.files (c.workers.length + 1) =
      .ok ((List.range (c.workers.length + 1)).map slice))
    (hop : c.Performs (.createFromSource t) d answer) :
    c.Keeps d ∧ ∃ fs, d.Hosts fs ∧
      ((answer = .ok .done ∧ ∀ k ≤ c.workers.length, ∃ b, (slice k).load c.files = .ok b ∧
          fs k = (es k).withTable t.name b) ∨
        ((∃ x, answer = .error x) ∧
          (∃ k ≤ c.workers.length, ∃ x, (slice k).load c.files = .error x) ∧
          (∀ k ≤ c.workers.length, (k = 0 ∨ ∃ b, (slice k).load c.files = .ok b) →
            ∀ other, (fs k).tables.find? other =
              if other = t.name then none else (es k).tables.find? other) ∧
          ∀ k ≤ c.workers.length, k ≠ 0 → (∃ x, (slice k).load c.files = .error x) →
            fs k = es k)) := by
  have hname : ∀ k ≤ c.workers.length, (slice k).table.name = t.name := fun k hk =>
    TableReference.name_divide (Nat.succ_pos _) ht
      (List.mem_map_of_mem (List.mem_range.2 (Nat.lt_succ_of_le hk)))
  obtain ⟨turns, m, ended, m', concluded, undos, hperm, ha, hc, hu, rfl, rfl⟩ :=
    hop.waiting_eq (h.start_source ht)
  obtain ⟨hkeep, gs, hd, hgs, js, fs, hjs, rfl⟩ := h.loads ha hperm
  rcases Except.forall_ok_or (fun k => (slice k).load c.files) c.workers.length with
    hall | ⟨j, hle, x, hx⟩
  · have hcomplete := Outcome.isComplete_iff.2 fun k (hk : k ∈ js) =>
      (outcome_load c.files (fs k) (slice k)).2 (hall k (mem_numbers.1 (hjs.mem_iff.1 hk)).2)
    obtain ⟨b, hb⟩ := hall 0 (Nat.zero_le _)
    rw [hb] at hc
    cases (conclude_loaded _ t.name hcomplete).symm.trans hc
    cases hu.eq_nil
    refine ⟨hkeep, gs, hd, .inl ⟨rfl, fun k hle => ?_⟩⟩
    obtain ⟨b, hb⟩ := hall k hle
    exact ⟨b, hb, by rw [hgs k hle, advance_load hb, hname k hle]⟩
  · obtain ⟨y, hy⟩ := conclude_unloaded _ t.name (not_complete_of_error fs hjs hle hx)
    cases hy.symm.trans hc
    obtain ⟨hkeep', gs', hd', hgs'⟩ := hd.rollBack t.name _ hu
    rw [hkeep.workers] at hgs'
    refine ⟨hkeep.trans hkeep', gs', hd', .inr ⟨⟨y, rfl⟩, ⟨j, hle, x, hx⟩, ?_, ?_⟩⟩
    · intro k hle hk other
      rw [hgs' k hle, if_pos (or_iff_not_imp_left.2 fun hz =>
        (mem_completedIds_loads hjs hz hle).2 (hk.resolve_left hz)), Engine.find?_without]
      split
      · rfl
      · next hne =>
        rw [hgs k hle, find?_advance_load _ _ _ fun he => hne (he.trans (hname k hle))]
    · rintro k hle hz ⟨x, hx⟩
      rw [hgs' k hle, if_neg ?_, hgs k hle, advance_load_error hx]
      rintro (h0 | hk)
      · exact hz h0
      · obtain ⟨b, hb⟩ := (mem_completedIds_loads hjs hz hle).1 hk
        rw [hx] at hb
        cases hb

end Source

section Drop

theorem Hosts.start_drop_error (h : c.Hosts es) (hn : (es 0).holds name = false) :
    c.start (.drop name) = (c, .answered (.error (.engine (.tableNotFound name)))) := by
  simp only [start, beginDrop, h.ready_eq, Except.ok_bind, h.seats.own, hn]
  rfl

theorem Hosts.start_drop (h : c.Hosts es) (hn : (es 0).holds name = true) :
    c.start (.drop name) =
      (c, .waiting (c.numbers.map fun k => (Duty.drop name).call k) (.dropped name)) := by
  simp only [start, beginDrop, h.ready_eq, Except.ok_bind, h.seats.own, hn, h.workerIds_eq,
    List.map_map]
  rfl

/-- A table that the coordinator has is dropped everywhere, and the workers' own reports are the
answer. -/
theorem Hosts.drops (h : c.Hosts es) (hn : (es 0).holds name = true)
    (hop : c.Performs (.drop name) d answer) :
    c.Keeps d ∧ (∃ fs, d.Hosts fs ∧ ∀ k ≤ c.workers.length, fs k = (es k).without name) ∧
      ∃ js : List Nat, js.Perm c.numbers ∧
        answer = ((Outcome.ofEnded (Outcome.inOrder js fun k =>
          (Duty.drop name).outcome c.files (es k))).result "drop table").map fun _ => .done := by
  obtain ⟨turns, m, ended, m', concluded, undos, hperm, ha, hc, hu, rfl, rfl⟩ :=
    hop.waiting_eq (h.start_drop hn)
  obtain ⟨hd, hkeep, js, hjs, rfl⟩ := h.attendAll_perm (D := fun _ => .drop name)
    c.nodup_numbers (fun k hk => by
      obtain ⟨hz, hle⟩ := mem_numbers.1 hk
      exact ⟨hle, hz, fun t ht => by cases ht⟩) hperm ha
  have h0 : advanced c.files (fun _ => Duty.drop name) es c.numbers 0 = es 0 :=
    if_neg c.zero_notMem_numbers
  have hdrop := Engine.drop_of_holds hn
  simp only [conclude, hd.seats.own, h0, hdrop] at hc
  cases hc
  cases hu.eq_nil
  have he := hd.engine 0 (Nat.zero_le _)
  rw [h0] at he
  refine ⟨⟨hkeep.files, hkeep.workers⟩, ⟨_, hd.withOwn (Duty.isSound_drop he hdrop)
    (Nat.le_refl _), fun k hle => ?_⟩, js, hjs, rfl⟩
  by_cases hz : k = 0
  · rw [hz, Function.update_self]
  · rw [Function.update_of_ne hz, advanced, if_pos (mem_numbers.2 ⟨hz, hle⟩), advance_drop]

/-- A table that the coordinator does not have is left where it is. -/
theorem Hosts.performs_drop (h : c.Hosts es) (hop : c.Performs (.drop name) d answer) :
    ((es 0).holds name = false ∧ d = c ∧ ∃ x, answer = .error x) ∨
      ((es 0).holds name = true ∧ c.Keeps d ∧ ∃ fs, d.Hosts fs ∧
        ∀ k ≤ c.workers.length, ∀ other, (fs k).tables.find? other =
          if other = name then none else (es k).tables.find? other) := by
  cases hn : (es 0).holds name with
  | false =>
    obtain ⟨rfl, rfl⟩ := hop.answered_eq (h.start_drop_error hn)
    exact .inl ⟨rfl, rfl, _, rfl⟩
  | true =>
    obtain ⟨hkeep, ⟨fs, hd, hf⟩, -⟩ := h.drops hn hop
    refine .inr ⟨rfl, hkeep, fs, hd, fun k hle other => ?_⟩
    rw [hf k hle, Engine.find?_without]

end Drop

section Query

/-- What a participant is asked to do for a query. -/
def queryDuty (issued : Nat) (sql : String) (own : Except QueryError Batch) (k : Nat) : Duty :=
  if k = 0 then .report own else .answer (tokenFrom (issued + 1) k) sql

theorem range_eq_cons_numbers (c : Cluster) :
    List.range (c.workers.length + 1) = 0 :: c.numbers := List.range_succ_eq_map

theorem Hosts.draft_eq (h : c.Hosts es) (sql : String) :
    c.draft sql = ({ c with tokens := ⟨c.tokens.issued + 1⟩ },
      (lift ((es 0).prepare sql)).map (⟨sql, ·, []⟩)) := by
  rw [draft, h.ready_eq, h.seats.own]
  rfl

theorem Hosts.dispatch_eq (h : c.Hosts es) (issued : Nat) (sql : String) (p : Engine.Prepared) :
    ∃ ids, c.dispatch ⟨sql, p, (List.range c.workers.length).map fun i =>
      tokenFrom (issued + 1) (i + 1)⟩ =
        ((List.range (c.workers.length + 1)).map fun k => (queryDuty issued sql p.run k).call k,
          .queried ids) := by
  have hduties : (c.numbers.map fun k => (⟨⟨k⟩, .ask none (.runQuery (tokenFrom (issued + 1) k)
      (tokenFrom (issued + 1) k).messageId sql)⟩ : Call)) =
        c.numbers.map fun k => (queryDuty issued sql p.run k).call k := by
    refine List.map_congr_left fun k hk => ?_
    rw [queryDuty, if_neg (mem_numbers.1 hk).1]
    rfl
  refine ⟨_, Prod.ext ?_ rfl⟩
  rw [range_eq_cons_numbers, List.map_cons, ← hduties, dispatch, h.callEach_eq]
  rfl

theorem Hosts.start_query_error (h : c.Hosts es) (hp : (es 0).prepare sql = .error x) :
    c.start (.query sql) =
      ({ c with tokens := ⟨c.tokens.issued + 1⟩ }, .answered (.error (.engine x))) := by
  rw [start, beginQuery, h.draft_eq, hp]
  rfl

theorem Hosts.start_query (h : c.Hosts es) (hp : (es 0).prepare sql = .ok p) :
    ∃ ids, c.start (.query sql) =
      ({ c with tokens := ⟨c.tokens.issued + 1 + c.workers.length⟩ },
        .waiting ((List.range (c.workers.length + 1)).map fun k =>
          (queryDuty c.tokens.issued sql p.run k).call k) (.queried ids)) := by
  have h' := h.withTokens (Nat.le_add_right c.tokens.issued (1 + c.workers.length))
  rw [← Nat.add_assoc] at h'
  obtain ⟨ids, hd⟩ := h'.dispatch_eq c.tokens.issued sql p
  refine ⟨ids, ?_⟩
  rw [start, beginQuery, h.draft_eq, hp]
  exact congrArg (fun next : List Call × Goal =>
    ({ c with tokens := ⟨c.tokens.issued + 1 + c.workers.length⟩ },
      Begun.waiting next.1 next.2)) hd

theorem advance_queryDuty (files : FileStore) (e : Engine) (k : Nat) :
    (queryDuty issued sql result k).advance files e = e := by
  rw [queryDuty]
  split
  · cases result <;> rfl
  · rw [Duty.advance, Duty.meet]
    cases e.prepare sql >>= Engine.Prepared.run <;> rfl

theorem discardLate_eq (c : Cluster) (issued : List (ParticipantId × MessageId))
    {failures : List Failure} (h : ∀ f ∈ failures, ∃ reason, f.kind = .rejected reason) :
    c.discardLate issued failures = c := by
  rw [discardLate]
  induction failures with
  | nil => rfl
  | cons f fs ih =>
    obtain ⟨reason, hf⟩ := h f (List.mem_cons_self ..)
    rw [List.foldl_cons]
    simp only [hf]
    exact ih fun g hg => h g (List.mem_cons_of_mem _ hg)

/-- Nobody times out where all answer, so no id is given up. -/
theorem conclude_queried (d : Cluster) (ids : List (ParticipantId × MessageId)) (ks : List Nat)
    (D : Nat → Duty) (files : FileStore) :
    d.conclude (.ofEnded (Outcome.inOrder ks fun k => (D k).outcome files (es k)))
        (.queried ids) =
      (d, ⟨[], (Outcome.ofEnded (Outcome.inOrder ks fun k => (D k).outcome files (es k))).result
        "sql" >>= combine⟩) := by
  rw [conclude, discardLate_eq]
  intro f hf
  rw [Outcome.ofEnded, List.mem_mergeSort, List.mem_filterMap] at hf
  obtain ⟨_, he, hf⟩ := hf
  obtain ⟨k, _, rfl⟩ := List.mem_map.1 he
  simp only [Duty.outcome] at hf
  cases hm : (D k).meet files (es k) with
  | ok p =>
    rw [hm] at hf
    cases hf
  | error x =>
    rw [hm] at hf
    cases hf
    cases D k <;> exact ⟨_, rfl⟩

theorem outcome_queryDuty (files : FileStore) (hp : (es 0).prepare sql = .ok p) (k : Nat) :
    ((∃ a, (queryDuty issued sql p.run k).outcome files (es k) = .ok a) ↔
      ∃ b, (es k).prepare sql >>= Engine.Prepared.run = .ok b) ∧
    ∀ b, (es k).prepare sql >>= Engine.Prepared.run = .ok b →
      (queryDuty issued sql p.run k).outcome files (es k) = .ok (.rows b) := by
  have hout : (queryDuty issued sql p.run k).outcome files (es k) =
      (((es k).prepare sql >>= Engine.Prepared.run).map Answer.rows).mapError
        (queryDuty issued sql p.run k).blame := by
    rw [Duty.outcome, queryDuty]
    split
    · next hz =>
      subst hz
      rw [hp, Except.ok_bind, Duty.meet]
      cases p.run <;> rfl
    · rw [Duty.meet]
      cases (es k).prepare sql >>= Engine.Prepared.run <;> rfl
  rw [hout]
  cases (es k).prepare sql >>= Engine.Prepared.run with
  | ok b => exact ⟨⟨fun _ => ⟨b, rfl⟩, fun _ => ⟨.rows b, rfl⟩⟩, by rintro _ ⟨⟩; rfl⟩
  | error x =>
    refine ⟨⟨?_, ?_⟩, ?_⟩
    · rintro ⟨a, ha⟩
      cases ha
    · rintro ⟨b, hb⟩
      cases hb
    · rintro b ⟨⟩

theorem Hosts.suits_queryDuty (h : c.Hosts es) (hk : k ∈ List.range (c.workers.length + 1)) :
    k ≤ c.workers.length ∧ (queryDuty c.tokens.issued sql result k).Suits k ∧
      ∀ t ∈ (queryDuty c.tokens.issued sql result k).token?, c.net.Lacks t.messageId := by
  refine ⟨Nat.le_of_lt_succ (List.mem_range.1 hk), ?_⟩
  rw [queryDuty]
  split
  · next hz => exact ⟨hz, fun t ht => by cases ht⟩
  · next hz =>
    refine ⟨hz, ?_⟩
    rintro t ⟨⟩
    apply h.lacks _
    rw [tokenFrom]
    exact Nat.lt_of_lt_of_le (Nat.lt_succ_self _) (Nat.le_add_right ..)

theorem answer_of_all (hp : (es 0).prepare sql = .ok p)
    (hjs : List.Perm js (List.range (c.workers.length + 1))) {part : Nat → Batch}
    (hpart : ∀ k ≤ c.workers.length, (es k).prepare sql >>= Engine.Prepared.run = .ok (part k)) :
    (Outcome.ofEnded (Outcome.inOrder js fun k =>
      (queryDuty issued sql p.run k).outcome c.files (es k))).result "sql" >>= combine =
        combine (js.map fun k => (⟨k⟩, .rows (part k))) := by
  have hok : ∀ k ∈ js, (queryDuty issued sql p.run k).outcome c.files (es k) =
      .ok (.rows (part k)) := by
    intro k hk
    have hle := Nat.le_of_lt_succ (List.mem_range.1 (hjs.mem_iff.1 hk))
    exact (outcome_queryDuty c.files hp k).2 _ (hpart k hle)
  have hcomplete := Outcome.isComplete_iff.2 fun k hk => ⟨_, hok k hk⟩
  rw [Outcome.result_of_complete hcomplete, Except.ok_bind, Outcome.completed_eq hok]

theorem answer_of_error (hp : (es 0).prepare sql = .ok p)
    (hjs : List.Perm js (List.range (c.workers.length + 1))) (hle : k ≤ c.workers.length)
    (hx : (es k).prepare sql >>= Engine.Prepared.run = .error x) :
    ∃ y, (Outcome.ofEnded (Outcome.inOrder js fun k =>
      (queryDuty issued sql p.run k).outcome c.files (es k))).result "sql" >>= combine =
        .error y := by
  have hfails : ¬ (Outcome.ofEnded (Outcome.inOrder js fun k =>
      (queryDuty issued sql p.run k).outcome c.files (es k))).isComplete = true := by
    intro hcomplete
    have hk := hjs.mem_iff.2 (List.mem_range.2 (Nat.lt_succ_of_le hle))
    obtain ⟨b, hb⟩ := (outcome_queryDuty c.files hp k).1.1
      (Outcome.isComplete_iff.1 hcomplete k hk)
    rw [hx] at hb
    cases hb
  rw [Outcome.result_of_incomplete hfails]
  exact ⟨_, rfl⟩

/--
A query changes no engine. Its answer is made of the results of all participants, in the order in
which they came, if all have one.
-/
theorem Hosts.performs_query (h : c.Hosts es) (hop : c.Performs (.query sql) d answer) :
    c.Keeps d ∧ d.Hosts es ∧
      ((∃ (ks : List Nat) (part : Nat → Batch), ks.Perm (List.range (c.workers.length + 1)) ∧
          (∀ k ≤ c.workers.length, (es k).prepare sql >>= Engine.Prepared.run = .ok (part k)) ∧
          answer = combine (ks.map fun k => (⟨k⟩, .rows (part k)))) ∨
        ((∃ k ≤ c.workers.length, ∃ x, (es k).prepare sql >>= Engine.Prepared.run = .error x) ∧
          ∃ x, answer = .error x)) := by
  cases hp : (es 0).prepare sql with
  | error x =>
    obtain ⟨rfl, rfl⟩ := hop.answered_eq (h.start_query_error hp)
    exact ⟨⟨rfl, rfl⟩, h.withTokens (Nat.le_succ _),
      .inr ⟨⟨0, Nat.zero_le _, x, by rw [hp]; rfl⟩, _, rfl⟩⟩
  | ok p =>
    obtain ⟨ids, hstart⟩ := h.start_query hp
    have h' := h.withTokens (Nat.le_add_right c.tokens.issued (1 + c.workers.length))
    rw [← Nat.add_assoc] at h'
    obtain ⟨turns, m, ended, m', concluded, undos, hperm, ha, hc, hu, rfl, rfl⟩ :=
      hop.waiting_eq hstart
    obtain ⟨hd, hkeep, js, hjs, rfl⟩ := h'.attendAll_perm
      (D := queryDuty c.tokens.issued sql p.run) List.nodup_range
      (fun k hk => h.suits_queryDuty hk) hperm ha
    have hes : advanced c.files (queryDuty c.tokens.issued sql p.run) es
        (List.range (c.workers.length + 1)) = es := by
      funext k
      rw [advanced, advance_queryDuty, ite_self]
    rw [hes] at hd
    cases (conclude_queried ..).symm.trans hc
    cases hu.eq_nil
    refine ⟨⟨hkeep.files, hkeep.workers⟩, hd, ?_⟩
    rcases Except.forall_ok_or (fun k => (es k).prepare sql >>= Engine.Prepared.run)
      c.workers.length with hall | ⟨j, hle, x, hx⟩
    · have : Nonempty Batch := ⟨.empty []⟩
      choose! part hpart using hall
      exact .inl ⟨js, part, hjs, hpart, answer_of_all hp hjs hpart⟩
    · exact .inr ⟨⟨j, hle, x, hx⟩, answer_of_error hp hjs hle hx⟩

end Query

end Cluster

end ShardQuery
