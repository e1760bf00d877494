import ShardQuery.Proofs.Cluster.Run
import ShardQuery.Proofs.Query.Rowwise

namespace ShardQuery

namespace Engine

/-- An engine on its own. -/
def lone : Engine := ⟨.coordinator, ⟨[]⟩, .sound, .empty⟩

def perform (files : FileStore) (e : Engine) : Operation → Except QueryError Engine
  | .create name batch => e.create name batch
  | .createFromSource t => do
    t.validate
    let t ← t.resolve files
    e.createFromSource files (.whole t)
  | .drop name => e.drop name
  | .query _ => .ok e

/-- What a turn comes to on a single engine; it has the files that the cluster has. -/
def takes (files : FileStore) (e : Engine) : Turn → Except QueryError Engine
  | .perform op _ => e.perform files op
  | _ => .ok e

def follow (e : Engine) : List (Cluster × Turn) → Except QueryError Engine
  | [] => .ok e
  | (c, turn) :: trace => do
    let e ← e.takes c.files turn
    e.follow trace

theorem tableNames_eq {e e' : Engine} (h : ∀ name, e.holds name = e'.holds name) :
    e.tableNames = e'.tableNames := by
  have hmem : ∀ (e : Engine) name, name ∈ e.tables.keys ↔ e.holds name = true :=
    fun _ _ => FiniteMap.mem_keys_iff
  have hperm : e.tables.keys.Perm e'.tables.keys :=
    (List.perm_ext_iff_of_nodup e.tables.nodup e'.tables.nodup).2 fun name =>
      (hmem e name).trans (by rw [h, ← hmem]; rfl)
  have hsorted : ∀ l : List String, (l.mergeSort (· ≤ ·)).Pairwise (· ≤ ·) := by
    intro l
    have hp : (l.mergeSort (· ≤ ·)).Pairwise fun a b => decide (a ≤ b) = true := by
      refine List.pairwise_mergeSort (fun a b c hab hbc => ?_) (fun a b => ?_) l
      · simp only [decide_eq_true_eq] at *
        exact String.le_trans hab hbc
      · simpa using String.le_total a b
    simpa using hp
  apply List.Perm.eq_of_pairwise (fun a b _ _ => String.le_antisymm) (hsorted _) (hsorted _)
  exact (List.mergeSort_perm _ _).trans (hperm.trans (List.mergeSort_perm _ _).symm)

end Engine

/-- A table is divided among participants: their parts are of its columns and make up its rows. -/
structure Batch.Divides (t : Batch) (n : Nat) (part : Nat → Batch) : Prop where
  schema : ∀ k ≤ n, (part k).schema = t.schema
  rows : (List.range (n + 1)).flatMap (fun k => (part k).rows) = t.rows

namespace Batch

theorem divides_split {b : Batch} {part : Nat → Batch}
    (h : b.split (n + 1) = .ok ((List.range (n + 1)).map part)) : b.Divides n part := by
  obtain ⟨parts, hp, -, hschema, hrows⟩ := b.split_eq_ok (Nat.succ_pos n)
  cases h.symm.trans hp
  refine ⟨fun k hk => hschema _ ?_, by rw [← hrows, List.flatMap_map]⟩
  exact List.mem_map_of_mem (List.mem_range.2 (Nat.lt_succ_of_le hk))

theorem Divides.filterMap_perm {t : Batch} {part part' : Nat → Batch} {ks : List Nat}
    {f : Row → Option Row} (h : t.Divides n part) (hks : ks.Perm (List.range (n + 1)))
    (hp : ∀ k ≤ n, part' k = ⟨out, (part k).rows.filterMap f⟩) :
    ((ks.map part').flatMap Batch.rows).Perm (t.rows.filterMap f) := by
  have hrows : (ks.map part').flatMap Batch.rows =
      ks.flatMap fun k => (part k).rows.filterMap f := by
    rw [List.flatMap_map, List.flatMap_def, List.flatMap_def]
    refine congrArg List.flatten (List.map_congr_left fun k hk => ?_)
    rw [hp k (Nat.le_of_lt_succ (List.mem_range.1 (hks.mem_iff.1 hk)))]
  rw [hrows, ← h.rows, List.filterMap_flatMap]
  exact hks.flatMap_right _

end Batch

namespace TableReference

def Unmapped (t : TableReference) : Prop := t.mapping = none ∨ t.mapping = some []

theorem mapping_resolve (h : resolve files t = .ok t') : t'.mapping = t.mapping := by
  rw [resolve] at h
  split at h
  · cases h
    rfl
  · split at h
    · cases h
      rfl
    · obtain ⟨_, _, h⟩ := Except.bind_eq_ok_iff.1 h
      obtain ⟨_, _, h⟩ := Except.bind_eq_ok_iff.1 h
      cases h
      rfl

/-- What the slices of a table come to divides what the table comes to. -/
theorem divides_load {slice : Nat → Slice} {part : Nat → Batch} (hm : Unmapped t)
    (ht : t.divide files (n + 1) = .ok ((List.range (n + 1)).map slice))
    (hload : ∀ k ≤ n, (slice k).load files = .ok (part k)) :
    ∃ t' b, t.validate = .ok () ∧ t.resolve files = .ok t' ∧ t'.load files = .ok b ∧
      b.Divides n part := by
  obtain ⟨_, hv, ht⟩ := Except.bind_eq_ok_iff.1 ht
  obtain ⟨t', hr, ht⟩ := Except.bind_eq_ok_iff.1 ht
  have hplan : Slice.planEvenly t' (n + 1) = .ok ((List.range (n + 1)).map slice) := by
    have hm' : t'.mapping = none ∨ t'.mapping = some [] := by rwa [mapping_resolve hr]
    rw [Planner.planTable] at ht
    rcases hm' with hm' | hm' <;> rw [hm'] at ht <;> exact ht
  have hg : ∀ s ∈ (List.range (n + 1)).map slice,
      s.load files = .ok ((s.load files).toOption.getD (.empty [])) := by
    intro s hs
    obtain ⟨k, hk, rfl⟩ := List.mem_map.1 hs
    rw [hload k (Nat.le_of_lt_succ (List.mem_range.1 hk))]
    rfl
  obtain ⟨hwhole, hschema⟩ := Planner.load_planEvenly (Nat.succ_pos n) hplan hg
  have hpart : ∀ k ∈ List.range (n + 1), ((slice k).load files).toOption.getD (.empty []) =
      part k := by
    intro k hk
    rw [hload k (Nat.le_of_lt_succ (List.mem_range.1 hk))]
    rfl
  refine ⟨t', _, hv, hr, hwhole, fun k hk => ?_, ?_⟩
  · have hmem := List.mem_range.2 (Nat.lt_succ_of_le hk)
    rw [← hpart k hmem]
    exact hschema _ (List.mem_map_of_mem hmem)
  · rw [Batch.concat, List.map_map, List.flatMap_map, List.flatMap_def, List.flatMap_def]
    congr 1
    exact List.map_congr_left fun k hk => congrArg Batch.rows (hpart k hk).symm

end TableReference

/-- A call that succeeds, where tables from files are not pinned to workers. -/
def Turn.Succeeds : Turn → Prop
  | .perform (.query _) _ => True
  | .perform (.createFromSource t) answer => t.Unmapped ∧ ∃ a, answer = .ok a
  | .perform _ answer => ∃ a, answer = .ok a
  | _ => True

namespace Cluster

/--
The participants hold the tables of one engine: each table's parts, in the order of the
participants, are of its columns and make up its rows.
-/
def Splits (c : Cluster) (e : Engine) : Prop :=
  ∀ name, match e.tables.find? name with
    | none => ∀ p ∈ c.engines, p.tables.find? name = none
    | some t => ∃ parts : List Batch,
      c.engines.map (·.tables.find? name) = parts.map some ∧
        (∀ b ∈ parts, b.schema = t.schema) ∧ parts.flatMap Batch.rows = t.rows

/-- The same by the numbers of the participants. -/
def Parts (es : Nat → Engine) (n : Nat) (e : Engine) (name : String) : Prop :=
  match e.tables.find? name with
  | none => ∀ k ≤ n, (es k).tables.find? name = none
  | some t => ∃ part, t.Divides n part ∧ ∀ k ≤ n, (es k).tables.find? name = some (part k)

variable {c d : Cluster} {es fs : Nat → Engine} {e : Engine}

theorem Hosts.splits (h : c.Hosts es) (hp : ∀ name, Parts es c.workers.length e name) :
    c.Splits e := by
  intro name
  have hn := hp name
  rw [Parts] at hn
  cases ht : e.tables.find? name with
  | none =>
    rw [ht] at hn
    intro p hmem
    rw [h.seats.engines] at hmem
    obtain ⟨k, hk, rfl⟩ := List.mem_map.1 hmem
    exact hn k (Nat.le_of_lt_succ (List.mem_range.1 hk))
  | some t =>
    rw [ht] at hn
    obtain ⟨part, hdiv, hfind⟩ := hn
    refine ⟨(List.range (c.workers.length + 1)).map part, ?_, ?_, ?_⟩
    · rw [h.seats.engines, List.map_map, List.map_map]
      exact List.map_congr_left fun k hk => hfind k (Nat.le_of_lt_succ (List.mem_range.1 hk))
    · intro b hb
      obtain ⟨k, hk, rfl⟩ := List.mem_map.1 hb
      exact hdiv.schema k (Nat.le_of_lt_succ (List.mem_range.1 hk))
    · rw [List.flatMap_map]
      exact hdiv.rows

theorem parts_of_same {e' : Engine} (hp : Parts es n e other)
    (hf : ∀ k ≤ n, (fs k).tables.find? other = (es k).tables.find? other)
    (he : e'.tables.find? other = e.tables.find? other) : Parts fs n e' other := by
  rw [Parts] at hp ⊢
  rw [he]
  cases ht : e.tables.find? other with
  | none =>
    rw [ht] at hp
    exact fun k hk => (hf k hk).trans (hp k hk)
  | some t =>
    rw [ht] at hp
    obtain ⟨part, hdiv, hpart⟩ := hp
    exact ⟨part, hdiv, fun k hk => (hf k hk).trans (hpart k hk)⟩

theorem parts_insert {t : Batch} {part : Nat → Batch} (hp : ∀ name, Parts es n e name)
    (hdiv : t.Divides n part) (hf : ∀ k ≤ n, fs k = (es k).withTable name (part k))
    (other : String) : Parts fs n (e.withTable name t) other := by
  by_cases ho : other = name
  · rw [Parts, Engine.find?_withTable, if_pos ho]
    exact ⟨part, hdiv, fun k hk => by simp [hf k hk, ho]⟩
  · apply parts_of_same (hp other)
    · intro k hk
      simp [hf k hk, ho]
    · simp [ho]

theorem parts_erase {e' : Engine} (hp : ∀ name, Parts es n e name)
    (he : e.drop name = .ok e')
    (hf : ∀ k ≤ n, ∀ other, (fs k).tables.find? other =
      if other = name then none else (es k).tables.find? other)
    (other : String) : Parts fs n e' other := by
  by_cases ho : other = name
  · rw [Parts, Engine.find?_drop he, if_pos ho]
    exact fun k hk => by simp [hf k hk, ho]
  · apply parts_of_same (hp other)
    · intro k hk
      simp [hf k hk, ho]
    · simp [Engine.find?_drop he, ho]

theorem holds_of_parts (hp : Parts es n e name) (hk : k ≤ n) :
    (es k).holds name = e.holds name := by
  rw [Parts] at hp
  cases ht : e.tables.find? name with
  | none =>
    rw [ht] at hp
    exact FiniteMap.contains_congr ((hp k hk).trans ht.symm)
  | some t =>
    rw [ht] at hp
    obtain ⟨part, -, hpart⟩ := hp
    exact (FiniteMap.contains_of_find? (hpart k hk)).trans (FiniteMap.contains_of_find? ht).symm

/-- A call that succeeds on the cluster does on the single engine, and the tables still match. -/
theorem Effect.follows (h : c.Effect es turn fs) (hok : turn.Succeeds)
    (hp : ∀ name, Parts es c.workers.length e name) (he : e.conduct = .sound) :
    ∃ e', e.takes c.files turn = .ok e' ∧ e'.conduct = .sound ∧
      ∀ name, Parts fs c.workers.length e' name := by
  have hsound : e.IsSound e.members e.self.number := ⟨rfl, rfl, he⟩
  cases h with
  | created hsplit hf =>
    exact ⟨_, hsound.create_eq .., he, parts_insert hp (Batch.divides_split hsplit) hf⟩
  | loaded ht hf =>
    rename_i t slice
    have : Nonempty Batch := ⟨.empty []⟩
    choose! part hload hpart using hf
    obtain ⟨t', b, hv, hr, hb, hdiv⟩ := TableReference.divides_load hok.1 ht hload
    have hname := TableReference.name_resolve hr
    refine ⟨e.withTable t.name b, ?_, he, parts_insert hp hdiv hpart⟩
    have hload' : (Slice.whole t').load c.files = .ok b := hb
    show (t.validate >>= fun _ => t.resolve c.files >>= _) = _
    rw [hv, Except.ok_bind, hr, Except.ok_bind, hsound.createFromSource_eq, hload', ← hname]
    rfl
  | unloaded => obtain ⟨_, _, ⟨⟩⟩ := hok
  | undivided => obtain ⟨_, _, ⟨⟩⟩ := hok
  | dropped hn hf =>
    rw [holds_of_parts (hp _) (Nat.zero_le _)] at hn
    have hdrop : e.drop _ = .ok _ := if_pos hn
    exact ⟨_, hdrop, (Duty.isSound_drop hsound hdrop).conduct, parts_erase hp hdrop hf⟩
  | missing => obtain ⟨_, ⟨⟩⟩ := hok
  | answered => exact ⟨e, rfl, he, hp⟩
  | unanswered => exact ⟨e, rfl, he, hp⟩
  | explained => exact ⟨e, rfl, he, hp⟩
  | stored => exact ⟨e, rfl, he, hp⟩

theorem Hosts.follows (h : c.Hosts es) (hr : c.Runs trace d)
    (hok : ∀ p ∈ trace, p.2.Succeeds) (hp : ∀ name, Parts es c.workers.length e name)
    (he : e.conduct = .sound) :
    d.workers.length = c.workers.length ∧ ∃ fs e', e.follow trace = .ok e' ∧ d.Hosts fs ∧
      ∀ name, Parts fs d.workers.length e' name := by
  induction hr generalizing es e with
  | nil => exact ⟨rfl, es, e, rfl, h, hp⟩
  | cons ht hs ih =>
    obtain ⟨hlen, fs, hm, heffect⟩ := h.takes ht
    obtain ⟨e', he', hsound, hp'⟩ := heffect.follows (hok _ (List.mem_cons_self ..)) hp he
    rw [← hlen] at hp' ⊢
    rw [Engine.follow, he', Except.ok_bind]
    exact ih hm (fun p hmem => hok p (List.mem_cons_of_mem _ hmem)) hp' hsound

/-- Partial results of one schema go together. -/
theorem combine_rows {part : Nat → Batch} (hk : ks ≠ []) (hpart : ∀ k ∈ ks, (part k).schema = out) :
    combine (ks.map fun k => (⟨k⟩, .rows (part k))) =
      .ok (.rows (.concat out (ks.map part))) := by
  have hjoin := Batch.join?_of_schema (List.forall_mem_map.2 hpart)
  rw [combine, batches_rows]
  cases ks with
  | nil => exact absurd rfl hk
  | cons k ks =>
    rw [List.map_cons] at hjoin ⊢
    simp only [hpart k (List.mem_cons_self ..), hjoin]

/-- What the rows of a table come to part by part, in one batch. -/
theorem combine_divided {t : Batch} {part part' : Nat → Batch} {f : Row → Option Row}
    (hdiv : t.Divides n part) (hks : List.Perm ks (List.range (n + 1)))
    (hpart' : ∀ k ≤ n, part' k = ⟨out, (part k).rows.filterMap f⟩) :
    ∃ r, combine (ks.map fun k => (⟨k⟩, .rows (part' k))) = .ok (.rows r) ∧ r.schema = out ∧
      r.rows.Perm (t.rows.filterMap f) := by
  have hne : ks ≠ [] := by
    rintro rfl
    exact absurd (List.nil_perm.1 hks) (by simp)
  have hout : ∀ k ∈ ks, (part' k).schema = out := by
    intro k hk
    rw [hpart' k (Nat.le_of_lt_succ (List.mem_range.1 (hks.mem_iff.1 hk)))]
  exact ⟨_, combine_rows hne hout, rfl, hdiv.filterMap_perm hks hpart'⟩

/-- A query without a limit comes to the same on the parts of its table as on the table. -/
theorem Hosts.query_eq (h : c.Hosts es) (hp : ∀ name, Parts es c.workers.length e name)
    (hq : parseQuery sql = .ok q) (hlimit : q.limit = none)
    (hop : c.Performs (.query sql) d answer) :
    match e.table q.table >>= q.execute with
    | .ok r => ∃ r', answer = .ok (.rows r') ∧ r'.schema = r.schema ∧ r'.rows.Perm r.rows
    | .error _ => ∃ x, answer = .error x := by
  obtain ⟨-, -, heffect⟩ := h.performs_query hop
  have hn := hp q.table
  rw [Parts] at hn
  cases ht : e.tables.find? q.table with
  | none =>
    rw [ht] at hn
    rw [Engine.table, ht]
    rcases heffect with ⟨ks, part, hks, hpart, -⟩ | ⟨-, hx⟩
    · obtain ⟨b, hb, -⟩ := (Engine.prepare_run_iff hq).1 (hpart 0 (Nat.zero_le _))
      rw [hn 0 (Nat.zero_le _)] at hb
      cases hb
    · exact hx
  | some t =>
    rw [ht] at hn
    obtain ⟨part, hdiv, hfind⟩ := hn
    rw [Engine.table, ht, Except.ok_bind]
    -- the result of a participant is what the query comes to on its part
    have hexec : ∀ k ≤ c.workers.length, ∀ r,
        (es k).prepare sql >>= Engine.Prepared.run = .ok r ↔ q.execute (part k) = .ok r := by
      intro k hk r
      rw [Engine.prepare_run_iff hq, hfind k hk]
      constructor
      · rintro ⟨b, hb, hr⟩
        cases hb
        exact hr
      · intro hr
        exact ⟨part k, rfl, hr⟩
    rcases SelectQuery.execute_cases hlimit t.schema with ⟨x, hx⟩ | ⟨out, f, hf⟩
    · rw [hx t rfl]
      rcases heffect with ⟨ks, part', hks, hpart, -⟩ | ⟨-, hx'⟩
      · have hfirst := (hexec 0 (Nat.zero_le _) _).1 (hpart 0 (Nat.zero_le _))
        rw [hx _ (hdiv.schema 0 (Nat.zero_le _))] at hfirst
        cases hfirst
      · exact hx'
    · rw [hf t rfl]
      rcases heffect with ⟨ks, part', hks, hpart, rfl⟩ | ⟨⟨k, hk, x, hx⟩, -⟩
      · have hpart' : ∀ k ≤ c.workers.length, part' k = ⟨out, (part k).rows.filterMap f⟩ := by
          intro k hk
          have hk' := (hexec k hk _).1 (hpart k hk)
          rw [hf _ (hdiv.schema k hk)] at hk'
          exact (Except.ok.inj hk').symm
        obtain ⟨r, hcombine, hschema, hrows⟩ := combine_divided hdiv hks hpart'
        exact ⟨r, hcombine, hschema, hrows⟩
      · have hok := (hexec k hk _).2 (hf _ (hdiv.schema k hk))
        rw [hx] at hok
        cases hok

/--
A cluster that was started without faults refines a single engine. After any run in which all calls
succeed, its participants hold the tables of that engine, in parts; and on both a query without a
limit fails, or it gives the same rows of the same columns in some order.
-/
theorem refines_lone (h : Cluster.run s n [] store = .ok c) (hr : c.Runs trace d)
    (hok : ∀ p ∈ trace, p.2.Succeeds) :
    ∃ e, Engine.lone.follow trace = .ok e ∧ d.engines.length = n + 1 ∧ d.Splits e ∧
      (∀ p ∈ d.engines, p.tableNames = e.tableNames) ∧
      ∀ sql q, parseQuery sql = .ok q → q.limit = none →
        (∃ d' answer, d.Performs (.query sql) d' answer) ∧
        ∀ d' answer, d.Performs (.query sql) d' answer →
          match e.table q.table >>= q.execute with
          | .ok r => ∃ r', answer = .ok (.rows r') ∧ r'.schema = r.schema ∧ r'.rows.Perm r.rows
          | .error _ => ∃ x, answer = .error x := by
  obtain ⟨hc, hlen⟩ := hosts_of_run h
  have hnone : ∀ name, Parts (Engine.fresh c.members) c.workers.length .lone name :=
    fun _ _ _ => rfl
  obtain ⟨hlen', fs, e, hfollow, hd, hp⟩ := hc.follows hr hok hnone rfl
  refine ⟨e, hfollow, ?_, hd.splits hp, ?_, fun sql q hq hlimit =>
    ⟨⟨_, _, d.performs_perform _⟩, fun d' answer hop => hd.query_eq hp hq hlimit hop⟩⟩
  · rw [hd.seats.engines, List.length_map, List.length_range, hlen', hlen]
  · intro p hmem
    rw [hd.seats.engines] at hmem
    obtain ⟨k, hk, rfl⟩ := List.mem_map.1 hmem
    exact Engine.tableNames_eq fun name =>
      holds_of_parts (hp name) (Nat.le_of_lt_succ (List.mem_range.1 hk))

theorem refines_lone_created : ∃ c d e, Cluster.run .default 1 [] .empty = .ok c ∧
    c.Runs [(c, .perform (.create "t" counted) (.ok .done))] d ∧
    e.table "t" = .ok counted ∧ d.engines.length = 2 ∧ d.Splits e := by
  obtain ⟨c, h⟩ := exists_run
  obtain ⟨hc, -⟩ := hosts_of_run h
  have hr := Runs.cons (.perform (hc.perform_create "t" counted)) (.nil _)
  obtain ⟨e, hfollow, hsize, hsplits, -⟩ := refines_lone h hr (by
    intro p hmem
    cases List.mem_singleton.1 hmem
    exact ⟨.done, rfl⟩)
  cases hfollow
  exact ⟨c, _, _, h, hr, rfl, hsize, hsplits⟩

end Cluster

end ShardQuery
