import ShardQuery.Proofs.Cluster.Agreement
import ShardQuery.Proofs.Cluster.Refinement

namespace ShardQuery

namespace Engine

variable {e e' : Engine}

/-- The tables of two engines are the same, their names and what they hold. -/
structure SameTables (e e' : Engine) : Prop where
  names : e'.tableNames = e.tableNames
  contents : ∀ name, e'.table name = e.table name

theorem sameTables_of_find? (h : ∀ name, e'.tables.find? name = e.tables.find? name) :
    e.SameTables e' where
  names := tableNames_eq fun name => FiniteMap.contains_congr (h name)
  contents name := by rw [table, table, h]

theorem find?_of_holds_false (h : e.holds name = false) : e.tables.find? name = none :=
  Option.not_isSome_iff_eq_none.1 (Bool.eq_false_iff.1 h)

end Engine

namespace Cluster

variable {c d : Cluster} {es fs : Nat → Engine}

theorem Hosts.forall_mem_engines (h : c.Hosts es) {P : Engine → Prop} :
    (∀ e ∈ c.engines, P e) ↔ ∀ k ≤ c.workers.length, P (es k) := by
  rw [h.seats.engines, List.forall_mem_map]
  simp only [List.mem_range, Nat.lt_succ_iff]

theorem Hosts.sameTables (h : c.Hosts es) (hd : d.Hosts fs)
    (hlen : d.workers.length = c.workers.length)
    (hsame : ∀ k ≤ c.workers.length, ∀ name,
      (fs k).tables.find? name = (es k).tables.find? name) :
    List.Forall₂ Engine.SameTables c.engines d.engines := by
  rw [h.seats.engines, hd.seats.engines, hlen, List.forall₂_map_left_iff,
    List.forall₂_map_right_iff, List.forall₂_same]
  intro k hk
  exact Engine.sameTables_of_find? (hsame k (Nat.lt_succ_iff.1 (List.mem_range.1 hk)))

theorem find?_of_gone {e e' : Engine} (hfree : e.holds name = false)
    (hgone : ∀ other, e'.tables.find? other =
      if other = name then none else e.tables.find? other) (other : String) :
    e'.tables.find? other = e.tables.find? other := by
  rw [hgone]
  split
  · next he => rw [he, Engine.find?_of_holds_false hfree]
  · rfl

theorem Hosts.sameTables_unloaded (h : c.Hosts es) (hd : d.Hosts fs)
    (hlen : d.workers.length = c.workers.length)
    (hfree : ∀ k ≤ c.workers.length, (es k).holds name = false) {slice : Nat → Slice}
    (hgone : ∀ k ≤ c.workers.length, (k = 0 ∨ ∃ b, (slice k).load c.files = .ok b) →
      ∀ other, (fs k).tables.find? other =
        if other = name then none else (es k).tables.find? other)
    (hkept : ∀ k ≤ c.workers.length, k ≠ 0 → (∃ x, (slice k).load c.files = .error x) →
      fs k = es k) :
    List.Forall₂ Engine.SameTables c.engines d.engines := by
  apply h.sameTables hd hlen
  intro k hk
  -- the coordinator gives the table up whether it had loaded it or not, a worker if it had
  by_cases hz : k = 0
  · exact find?_of_gone (hfree k hk) (hgone k hk (.inl hz))
  · cases hl : (slice k).load c.files with
    | ok b => exact find?_of_gone (hfree k hk) (hgone k hk (.inr ⟨b, hl⟩))
    | error x =>
      rw [hkept k hk hz ⟨x, hl⟩]
      exact fun _ => rfl

/-- A table can be divided among the participants, and each of them can load its share. -/
def Loads (c : Cluster) (t : TableReference) : Prop :=
  ∃ slices, t.divide c.files (c.workers.length + 1) = .ok slices ∧
    ∀ s ∈ slices, ∃ b, s.load c.files = .ok b

theorem loads_iff_forall {slice : Nat → Slice}
    (ht : t.divide c.files (c.workers.length + 1) =
      .ok ((List.range (c.workers.length + 1)).map slice)) :
    c.Loads t ↔ ∀ k ≤ c.workers.length, ∃ b, (slice k).load c.files = .ok b := by
  have hall : (∀ s ∈ (List.range (c.workers.length + 1)).map slice,
      ∃ b, s.load c.files = .ok b) ↔
        ∀ k ≤ c.workers.length, ∃ b, (slice k).load c.files = .ok b := by
    rw [List.forall_mem_map]
    simp only [List.mem_range, Nat.lt_succ_iff]
  rw [Loads, ht, ← hall]
  constructor
  · rintro ⟨slices, hok, h⟩
    cases hok
    exact h
  · exact fun h => ⟨_, rfl, h⟩

theorem start_source_of_not_ready (h : c.phase ≠ .ready) (t : TableReference) :
    c.start (.createFromSource t) =
      (c, .answered (.error (.notReady "create table" c.phase))) := by
  rw [start, beginSource, ready, if_neg h]
  rfl

theorem created_or_unchanged (h : c.phase = .ready → ∃ es, c.Hosts es)
    (hfree : ∀ e ∈ c.engines, e.holds t.name = false)
    (hop : c.Performs (.createFromSource t) d answer) :
    (answer = .ok .done ∧ (c.phase = .ready ∧ c.Loads t) ∧
        d.engines.length = d.workers.length + 1 ∧ d.workers.length = c.workers.length ∧
        ∀ e ∈ d.engines, e.holds t.name = true) ∨
      ((∃ x, answer = .error x) ∧ ¬ (c.phase = .ready ∧ c.Loads t) ∧
        List.Forall₂ Engine.SameTables c.engines d.engines) := by
  by_cases hready : c.phase = .ready
  · obtain ⟨es, hc⟩ := h hready
    have hfree' := hc.forall_mem_engines.1 hfree
    obtain ⟨hlen, fs, hd, heffect⟩ := hc.takes (.perform hop)
    cases heffect with
    | loaded ht hf =>
      refine .inl ⟨rfl, ⟨hready, (loads_iff_forall ht).2 fun k hk => ?_⟩,
        by simp [hd.seats.engines], hlen, hd.forall_mem_engines.2 fun k hk => ?_⟩
      · obtain ⟨b, hb, -⟩ := hf k hk
        exact ⟨b, hb⟩
      · rw [hlen] at hk
        obtain ⟨b, -, hb⟩ := hf k hk
        simp [hb]
    | unloaded ht hfails hgone hkept =>
      refine .inr ⟨⟨_, rfl⟩, ?_, hc.sameTables_unloaded hd hlen hfree' hgone hkept⟩
      rintro ⟨-, hloads⟩
      obtain ⟨k, hk, x, hx⟩ := hfails
      obtain ⟨b, hb⟩ := (loads_iff_forall ht).1 hloads k hk
      cases hx.symm.trans hb
    | undivided ht =>
      refine .inr ⟨⟨_, rfl⟩, ?_, hc.sameTables hd hlen fun _ _ _ => rfl⟩
      rintro ⟨-, slices, hok, -⟩
      cases ht.symm.trans hok
  · obtain ⟨rfl, rfl⟩ := hop.answered_eq (start_source_of_not_ready hready t)
    refine .inr ⟨⟨_, rfl⟩, fun hloads => hready hloads.1, List.forall₂_same.2 fun e _ => ?_⟩
    exact Engine.sameTables_of_find? fun _ => rfl

/-- A table that nobody has is loaded by all participants if they can, and otherwise each has its
tables as they were, whichever of the shares could be loaded. States of a cluster that was started
are such states, by `hosts_of_run` and `Hosts.runs`. -/
theorem creation_is_all_or_nothing (h : c.phase = .ready → ∃ es, c.Hosts es)
    (hfree : ∀ e ∈ c.engines, e.holds t.name = false)
    (hop : c.Performs (.createFromSource t) d answer) :
    (∀ x, answer = .error x → List.Forall₂ Engine.SameTables c.engines d.engines) ∧
      (∀ a, answer = .ok a → d.engines.length = d.workers.length + 1 ∧
        d.workers.length = c.workers.length ∧ ∀ e ∈ d.engines, e.holds t.name = true) ∧
      ((∃ a, answer = .ok a) ↔ c.phase = .ready ∧ c.Loads t) := by
  rcases created_or_unchanged h hfree hop with ⟨rfl, hloads, hheld⟩ | ⟨⟨x, rfl⟩, hfails, hsame⟩
  · refine ⟨?_, fun _ _ => hheld, iff_of_true ⟨_, rfl⟩ hloads⟩
    intro x hx
    cases hx
  · refine ⟨fun _ _ => hsame, ?_, iff_of_false ?_ hfails⟩
    · intro a ha
      cases ha
    · rintro ⟨a, ha⟩
      cases ha

theorem isOk_displaced : ((Cluster.run .default 1 [] .empty).toOption.map fun c =>
    ((c.perform (.create "u" counted)).1.perform (.createFromSource displaced)).2.isOk) =
      some false := by
  decide +kernel

/-- The worker cannot load its share, so the coordinator gives up the share that it could load. -/
theorem creation_is_all_or_nothing_displaced : ∃ (c d : Cluster) (x : ClusterError),
    (c.phase = .ready → ∃ es, c.Hosts es) ∧
      (∀ e ∈ c.engines, e.holds "u" = true ∧ e.holds displaced.name = false) ∧
      c.Performs (.createFromSource displaced) d (.error x) ∧
      List.Forall₂ Engine.SameTables c.engines d.engines := by
  obtain ⟨c₀, h₀⟩ := exists_run
  have hanswer : ((c₀.perform (.create "u" counted)).1.perform
      (.createFromSource displaced)).2.isOk = false := by
    have hdisplaced := isOk_displaced
    rw [h₀] at hdisplaced
    exact Option.some.inj hdisplaced
  obtain ⟨hc, -⟩ := hosts_of_run h₀
  obtain ⟨hlen, fs, hd, heffect⟩ := hc.takes (.perform (hc.perform_create "u" counted))
  generalize (c₀.perform (.create "u" counted)).1 = c at hanswer hlen hd
  have htables : ∀ e ∈ c.engines, e.holds "u" = true ∧ e.holds displaced.name = false := by
    refine hd.forall_mem_engines.2 fun k hk => ?_
    cases heffect with
    | created hp hf =>
      rw [hlen] at hk
      rw [hf k hk, Engine.holds_withTable, Engine.holds_withTable]
      exact ⟨rfl, rfl⟩
  have hop := c.performs_perform (.createFromSource displaced)
  cases hx : (c.perform (.createFromSource displaced)).2 with
  | ok a =>
    rw [hx] at hanswer
    cases hanswer
  | error x =>
    rw [hx] at hop
    have hsame := creation_is_all_or_nothing (fun _ => ⟨fs, hd⟩)
      (fun e he => (htables e he).2) hop
    exact ⟨c, _, x, fun _ => ⟨fs, hd⟩, htables, hop, hsame.1 x rfl⟩

end Cluster

end ShardQuery
