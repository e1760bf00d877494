import ShardQuery.Proofs.Cluster.Run

namespace ShardQuery

namespace Cluster

/-- Each worker has an engine with tables of the same names as the coordinator. -/
def Agrees (c : Cluster) : Prop :=
  ∀ w ∈ c.workers, ∃ e, w.engine = some e ∧ ∀ name, e.holds name = c.own.holds name

/-- Files are to take the place of a table, and a worker cannot load its share of them. -/
def Stale (c : Cluster) : Turn → Prop
  | .perform (.createFromSource t) _ =>
    c.own.holds t.name = true ∧ ∃ first rest,
      t.divide c.files (c.workers.length + 1) = .ok (first :: rest) ∧
        ∃ s ∈ rest, ∃ x, s.load c.files = .error x
  | _ => False

variable {c d : Cluster} {es fs : Nat → Engine}

theorem Hosts.agrees_iff (h : c.Hosts es) :
    c.Agrees ↔ ∀ k ≤ c.workers.length, ∀ name, (es k).holds name = (es 0).holds name := by
  rw [Agrees, h.seats.own]
  constructor
  · intro ha k hk
    cases k with
    | zero => exact fun _ => rfl
    | succ i =>
      have hw : Worker.serving (es (i + 1)) ∈ c.workers := by
        rw [h.seats.workers]
        exact List.mem_map_of_mem (List.mem_range.2 hk)
      obtain ⟨e, he, hn⟩ := ha _ hw
      cases he
      exact hn
  · intro ha w hw
    rw [h.seats.workers] at hw
    obtain ⟨i, hi, rfl⟩ := List.mem_map.1 hw
    exact ⟨es (i + 1), rfl, ha (i + 1) (List.mem_range.1 hi)⟩

theorem Hosts.stale_iff (h : c.Hosts es) {slice : Nat → Slice}
    (ht : t.divide c.files (c.workers.length + 1) =
      .ok ((List.range (c.workers.length + 1)).map slice)) (answer : Except ClusterError Answer) :
    c.Stale (.perform (.createFromSource t) answer) ↔ (es 0).holds t.name = true ∧
      ∃ k ≤ c.workers.length, k ≠ 0 ∧ ∃ x, (slice k).load c.files = .error x := by
  rw [Stale, h.seats.own, ht, range_eq_cons_numbers, List.map_cons]
  refine and_congr_right fun _ => ?_
  constructor
  · rintro ⟨first, rest, he, s, hs, x, hx⟩
    cases he
    obtain ⟨k, hk, rfl⟩ := List.mem_map.1 hs
    obtain ⟨hz, hle⟩ := mem_numbers.1 hk
    exact ⟨k, hle, hz, x, hx⟩
  · rintro ⟨k, hle, hz, x, hx⟩
    exact ⟨_, _, rfl, slice k, List.mem_map_of_mem (mem_numbers.2 ⟨hz, hle⟩), x, hx⟩

theorem holds_of_find? {e e' : Engine} (h : ∀ other, e'.tables.find? other =
    if other = name then none else e.tables.find? other) (other : String) :
    e'.holds other = (!decide (other = name) && e.holds other) := by
  have hwithout : e'.holds other = (e.without name).holds other :=
    FiniteMap.contains_congr ((h other).trans (e.find?_without name other).symm)
  simp [hwithout]

theorem Hosts.agrees_after (h : c.Hosts es) (hd : d.Hosts fs)
    (hlen : d.workers.length = c.workers.length) (ha : c.Agrees) (f : String → Bool → Bool)
    (hf : ∀ k ≤ c.workers.length, ∀ name, (fs k).holds name = f name ((es k).holds name)) :
    d.Agrees := by
  rw [hd.agrees_iff, hlen]
  intro k hk name
  rw [hf k hk, hf 0 (Nat.zero_le _), h.agrees_iff.1 ha k hk]

theorem Hosts.agrees_unloaded (h : c.Hosts es) (hd : d.Hosts fs)
    (hlen : d.workers.length = c.workers.length) (ha : c.Agrees) {slice : Nat → Slice}
    (hgone : ∀ k ≤ c.workers.length, (k = 0 ∨ ∃ b, (slice k).load c.files = .ok b) →
      ∀ other, (fs k).tables.find? other =
        if other = name then none else (es k).tables.find? other)
    (hkept : ∀ k ≤ c.workers.length, k ≠ 0 → (∃ x, (slice k).load c.files = .error x) →
      fs k = es k)
    (hcalm : ¬ ((es 0).holds name = true ∧
      ∃ k ≤ c.workers.length, k ≠ 0 ∧ ∃ x, (slice k).load c.files = .error x)) :
    d.Agrees := by
  refine h.agrees_after hd hlen ha (fun n b => !decide (n = name) && b) fun k hk n => ?_
  by_cases hfail : k ≠ 0 ∧ ∃ x, (slice k).load c.files = .error x
  · obtain ⟨hz, x, hx⟩ := hfail
    have hnone : (es 0).holds name = false :=
      Bool.eq_false_iff.2 fun hh => hcalm ⟨hh, k, hk, hz, x, hx⟩
    rw [hkept k hk hz ⟨x, hx⟩]
    by_cases hn : n = name
    · subst hn
      rw [h.agrees_iff.1 ha k hk, hnone, Bool.and_false]
    · simp [hn]
  · refine holds_of_find? (hgone k hk ?_) n
    by_cases hz : k = 0
    · exact .inl hz
    · right
      cases hl : (slice k).load c.files with
      | ok b => exact ⟨b, rfl⟩
      | error x => exact absurd ⟨hz, x, hl⟩ hfail

/-- A table that a worker cannot load stays there, but the coordinator has it no more. -/
theorem Hosts.not_agrees_unloaded (h : c.Hosts es) (hd : d.Hosts fs)
    (hlen : d.workers.length = c.workers.length) (ha : c.Agrees) (hk : k ≤ c.workers.length)
    (hheld : (es 0).holds name = true) (hkept : fs k = es k)
    (hgone : ∀ other, (fs 0).tables.find? other =
      if other = name then none else (es 0).tables.find? other) :
    ¬ d.Agrees := by
  intro hagrees
  have hsame := hd.agrees_iff.1 hagrees k (by rw [hlen]; exact hk) name
  rw [hkept, h.agrees_iff.1 ha k hk, hheld, holds_of_find? hgone] at hsame
  simp at hsame

/-- One turn keeps the participants in agreement exactly if it replaces no table half-way. -/
theorem Hosts.agrees_takes (h : c.Hosts es) (ha : c.Agrees) (hturn : c.Takes turn d) :
    d.Agrees ↔ ¬ c.Stale turn := by
  obtain ⟨hlen, fs, hd, heffect⟩ := h.takes hturn
  have hsame : es = fs → d.Agrees := by
    rintro rfl
    exact h.agrees_after hd hlen ha (fun _ b => b) fun _ _ _ => rfl
  cases heffect with
  | created hp hf =>
    rename_i name batch part
    refine iff_of_true (h.agrees_after hd hlen ha (fun n b => decide (n = name) || b) ?_) id
    intro k hk n
    simp [hf k hk]
  | loaded ht hf =>
    rename_i t slice
    refine iff_of_true (h.agrees_after hd hlen ha (fun n b => decide (n = t.name) || b) ?_) ?_
    · intro k hk n
      obtain ⟨b, -, hb⟩ := hf k hk
      simp [hb]
    · rw [h.stale_iff ht]
      rintro ⟨-, k, hk, -, x, hx⟩
      obtain ⟨b, hb, -⟩ := hf k hk
      rw [hx] at hb
      cases hb
  | unloaded ht hfails hgone hkept =>
    rw [h.stale_iff ht]
    constructor
    · rintro hagrees ⟨hheld, k, hk, hz, hx⟩
      exact h.not_agrees_unloaded hd hlen ha hk hheld (hkept k hk hz hx)
        (hgone 0 (Nat.zero_le _) (.inl rfl)) hagrees
    · exact h.agrees_unloaded hd hlen ha hgone hkept
  | undivided ht =>
    apply iff_of_true (hsame rfl)
    rintro ⟨-, first, rest, hok, -⟩
    rw [ht] at hok
    cases hok
  | dropped hn hf =>
    rename_i name _
    refine iff_of_true
      (h.agrees_after hd hlen ha (fun n b => !decide (n = name) && b) fun k hk n => ?_) id
    exact holds_of_find? (hf k hk) n
  | missing hn => exact iff_of_true (hsame rfl) id
  | answered hks hp => exact iff_of_true (hsame rfl) id
  | unanswered hp => exact iff_of_true (hsame rfl) id
  | explained => exact iff_of_true (hsame rfl) id
  | stored => exact iff_of_true (hsame rfl) id

theorem Hosts.agrees_runs (h : c.Hosts es) (ha : c.Agrees) (hr : c.Runs trace d) :
    (∀ s ∈ visited trace d, s.Agrees) ↔ ∀ p ∈ trace, ¬ p.1.Stale p.2 := by
  induction hr generalizing es with
  | nil c =>
    refine iff_of_true (fun s hs => ?_) (fun p hp => by cases hp)
    cases List.mem_singleton.1 hs
    exact ha
  | cons ht hs ih =>
    rename_i c turn m trace e
    have hstep := h.agrees_takes ha ht
    obtain ⟨-, fs, hm, -⟩ := h.takes ht
    have hfirst : m ∈ visited trace e := by
      cases hs with
      | nil => exact List.mem_singleton.2 rfl
      | cons _ _ => exact List.mem_cons_self ..
    simp only [visited, List.map_cons, List.cons_append, List.forall_mem_cons] at *
    constructor
    · rintro ⟨-, hall⟩
      have hagrees := hall m hfirst
      exact ⟨hstep.1 hagrees, (ih hm hagrees).1 hall⟩
    · rintro ⟨hcalm, hrest⟩
      exact ⟨ha, (ih hm (hstep.2 hcalm)).2 hrest⟩

/--
In a cluster that was started without faults, the participants have tables of the same names in all
states of a run exactly if, in that run, no worker fails to load its share of files that are to take
the place of a table.
-/
theorem agrees_iff_no_stale (h : Cluster.run s n [] store = .ok c) (hr : c.Runs trace d) :
    (∀ state ∈ visited trace d, state.Agrees) ↔ ∀ p ∈ trace, ¬ p.1.Stale p.2 := by
  obtain ⟨hc, -⟩ := hosts_of_run h
  exact hc.agrees_runs (hc.agrees_iff.2 fun _ _ _ => rfl) hr

/-- A table of a file that the coordinator leaves to the worker, who cannot load it. -/
def displaced : TableReference := { name := "t", kind := .memory, locations := ["a"] }

theorem divide_displaced (store : FileStore) : ∃ first s x,
    displaced.divide store 2 = .ok [first, s] ∧ s.load store = .error x :=
  ⟨_, _, _, rfl, rfl⟩

theorem agrees_iff_no_stale_displaced :
    ∃ c₀ c₁ c₂ answer, Cluster.run .default 1 [] .empty = .ok c₀ ∧
      c₀.Runs [(c₀, .perform (.create "t" counted) (.ok .done)),
        (c₁, .perform (.createFromSource displaced) answer)] c₂ ∧
      ¬ ∀ state ∈ [c₀, c₁, c₂], state.Agrees := by
  obtain ⟨c₀, h₀⟩ := exists_run
  obtain ⟨hc, hsize⟩ := hosts_of_run h₀
  have hfirst := hc.perform_create "t" counted
  obtain ⟨hlen, fs, hd, heffect⟩ := hc.takes (.perform hfirst)
  generalize (c₀.perform (.create "t" counted)).1 = c₁ at hfirst hlen hd
  have hr : c₀.Runs [(c₀, .perform (.create "t" counted) (.ok .done)),
      (c₁, .perform (.createFromSource displaced)
        (c₁.perform (.createFromSource displaced)).2)]
      (c₁.perform (.createFromSource displaced)).1 :=
    .cons (.perform hfirst) (.cons (.perform (c₁.performs_perform _)) (.nil _))
  refine ⟨c₀, c₁, _, _, h₀, hr, fun hall => ?_⟩
  apply (agrees_iff_no_stale h₀ hr).1 hall _ (List.mem_cons_of_mem _ (List.mem_cons_self ..))
  obtain ⟨first, s, x, hdivide, hx⟩ := divide_displaced c₁.files
  refine ⟨?_, first, [s], ?_, s, List.mem_cons_self .., x, hx⟩
  · cases heffect with
    | created hp hf =>
      simp [hd.seats.own, hf 0 (Nat.zero_le _), displaced]
  · rw [hlen, hsize]
    exact hdivide

end Cluster

end ShardQuery
