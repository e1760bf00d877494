import ShardQuery.Proofs.Cluster.Refinement

namespace ShardQuery

namespace TableReference

variable {t t' : TableReference} {store : FileStore}

theorem loads_iff : (∃ b, t.load store = .ok b) ↔
    ∀ p ∈ t.locations.zipIdx, ∃ b, t.loadFile store p.1 p.2 = .ok b := by
  rw [load_eq, Except.exists_map_eq_ok_iff, Except.exists_mapM_eq_ok_iff]

theorem loads_restrict_iff (r : Range) : (∃ b, (t.restrict r.start r.len).load store = .ok b) ↔
    ∀ p ∈ r.pick t.locations.zipIdx, ∃ b, t.loadFile store p.1 p.2 = .ok b := by
  rw [load_restrict, Except.exists_map_eq_ok_iff, Except.exists_mapM_eq_ok_iff]

/-- The columns found in a file fit together. -/
theorem validate_resolve (hv : t.validate = .ok ()) (hr : t.resolve store = .ok t') :
    t'.validate = .ok () := by
  rw [resolve] at hr
  split at hr
  · cases hr
    exact hv
  · split at hr
    · cases hr
      exact hv
    · obtain ⟨schema, -, hr⟩ := Except.bind_eq_ok_iff.1 hr
      obtain ⟨types, htypes, hr⟩ := Except.bind_eq_ok_iff.1 hr
      cases hr
      obtain ⟨-, hlocated⟩ := validate_eq_ok_iff.1 hv
      refine validate_eq_ok_iff.2 ⟨?_, hlocated⟩
      rw [List.length_map, Except.length_of_mapM htypes]

theorem planTable_of_unmapped (hm : t.Unmapped) (n : Nat) :
    Planner.planTable ⟨n⟩ t = Slice.planEvenly t n := by
  rw [Planner.planTable]
  rcases hm with hm | hm <;> rw [hm]

theorem divide_eq (hm : t.Unmapped) (hv : t.validate = .ok ()) (store : FileStore) (n : Nat) :
    t.divide store n = t.resolve store >>= fun t' => Slice.planEvenly t' n := by
  rw [divide, hv, Except.ok_bind]
  cases hr : t.resolve store with
  | error x => rfl
  | ok t' =>
    have hm' : t'.Unmapped := by
      rw [Unmapped, mapping_resolve hr]
      exact hm
    rw [Except.ok_bind, Except.ok_bind, planTable_of_unmapped hm']

end TableReference

namespace Planner

variable {t : TableReference} {store : FileStore}

/-- Each file is in exactly one slice, so that it cannot fail for the whole table only. -/
theorem loads_iff_slices (hn : 0 < n) (hp : Slice.planEvenly t n = .ok slices)
    (store : FileStore) :
    (∃ b, t.load store = .ok b) ↔ ∀ s ∈ slices, ∃ b, s.load store = .ok b := by
  rcases planEvenly_eq_ok hn hp with ⟨hl, rfl⟩ | ⟨rs, _, ht, rfl⟩
  · refine iff_of_true ?_ fun s hs => ?_
    · rw [TableReference.loads_iff, hl]
      exact fun p hp => by cases hp
    · rw [List.eq_of_mem_replicate hs]
      exact ⟨_, rfl⟩
  · rw [TableReference.loads_iff, List.forall_mem_map]
    have hall : rs.flatMap (Range.pick t.locations.zipIdx) = t.locations.zipIdx :=
      Range.Tiles.flatMap_pick_all (by rwa [List.length_zipIdx])
    rw [← hall]
    simp only [List.mem_flatMap, Slice.load, TableReference.loads_restrict_iff]
    constructor
    · intro h r hr p hp
      exact h p ⟨r, hr, hp⟩
    · rintro h p ⟨r, hr, hp⟩
      exact h r hr p hp

/-- Slices that all load come to the table, one after the other. -/
theorem load_of_slices (hn : 0 < n) (hp : Slice.planEvenly t n = .ok slices)
    (hparts : slices.mapM (Slice.load store) = .ok parts) :
    t.load store = .ok (.concat t.schema parts) ∧ ∀ p ∈ parts, p.schema = t.schema := by
  have hload := Except.exists_mapM_eq_ok_iff.1 ⟨parts, hparts⟩
  have : Nonempty Batch := ⟨.empty []⟩
  choose! g hg using hload
  cases (Except.mapM_eq_ok_of hg).symm.trans hparts
  obtain ⟨hwhole, hschema⟩ := load_planEvenly hn hp hg
  exact ⟨hwhole, List.forall_mem_map.2 hschema⟩

end Planner

namespace Cluster

/-- The rows that all participants together have of a table, in their order. -/
def rowsOf (c : Cluster) (name : String) : List Row :=
  c.engines.flatMap fun e => ((e.tables.find? name).map Batch.rows).getD []

variable {c d : Cluster} {es fs : Nat → Engine} {t : TableReference}

theorem Hosts.rowsOf_eq (h : c.Hosts es) {b : Batch} {part : Nat → Batch}
    (hb : b.Divides c.workers.length part)
    (hf : ∀ k ≤ c.workers.length, (es k).tables.find? name = some (part k)) :
    c.rowsOf name = b.rows := by
  rw [rowsOf, h.seats.engines, List.flatMap_map, ← hb.rows, List.flatMap_def, List.flatMap_def]
  refine congrArg List.flatten (List.map_congr_left fun k hk => ?_)
  rw [hf k (Nat.le_of_lt_succ (List.mem_range.1 hk))]
  rfl

/-- Making a table of files comes to what loading the files in one piece comes to. -/
theorem Hosts.source_eq (h : c.Hosts es) (hm : t.Unmapped) (hv : t.validate = .ok ())
    (hop : c.Performs (.createFromSource t) d answer) :
    match t.resolve c.files >>= fun t' => (Slice.whole t').load c.files with
    | .ok b => answer = .ok .done ∧ d.rowsOf t.name = b.rows
    | .error _ => ∃ x, answer = .error x := by
  have hdivide := TableReference.divide_eq hm hv c.files (c.workers.length + 1)
  cases hr : t.resolve c.files with
  | error x =>
    rw [hr] at hdivide
    obtain ⟨-, rfl⟩ := hop.answered_eq (h.start_source_error hdivide)
    exact ⟨_, rfl⟩
  | ok t' =>
    obtain ⟨slices, hplan⟩ := Planner.exists_planEvenly (Nat.succ_pos c.workers.length)
      (TableReference.validate_resolve hv hr)
    have hslices := eq_map_getD (Slice.whole t) (Planner.length_planEvenly (Nat.succ_pos _) hplan)
    rw [hslices] at hplan
    have hiff := Planner.loads_iff_slices (Nat.succ_pos _) hplan c.files
    rw [hr, Except.ok_bind, hplan] at hdivide
    rw [Except.ok_bind, Slice.load, Slice.whole]
    obtain ⟨hkeep, fs, hd, ⟨rfl, hf⟩ | ⟨hx, ⟨k, hk, y, hy⟩, -⟩⟩ := h.performs_source hdivide hop
    · have : Nonempty Batch := ⟨.empty []⟩
      choose! part hload hpart using hf
      obtain ⟨t'', b, -, hr', hb, hdiv⟩ := TableReference.divides_load hm hdivide hload
      cases hr.symm.trans hr'
      rw [hb]
      rw [← hkeep.workers] at hdiv
      refine ⟨rfl, hd.rowsOf_eq hdiv fun k hk => ?_⟩
      simp [hpart k (hkeep.workers ▸ hk)]
    · cases hb : t'.load c.files with
      | error x => exact hx
      | ok b =>
        obtain ⟨p, hp⟩ := hiff.1 ⟨b, hb⟩ _
          (List.mem_map_of_mem (List.mem_range.2 (Nat.lt_succ_of_le hk)))
        rw [hy] at hp
        cases hp

/--
Loading commutes with slicing. A table of files that is not pinned to workers loads as a whole
exactly if all its slices load, however many there are; all slices, also those without files, come
under its columns, and together they are the whole. So whether a cluster can make the table, and of
which rows, is told by the files alone.
-/
theorem load_slices (hm : t.Unmapped) (hv : t.validate = .ok ()) (store : FileStore) :
    (∀ n, 0 < n → ∃ slices, Slice.planEvenly t n = .ok slices ∧ slices.length = n ∧
      ((∃ b, (Slice.whole t).load store = .ok b) ↔ ∀ s ∈ slices, ∃ b, s.load store = .ok b) ∧
      ∀ parts, slices.mapM (Slice.load store) = .ok parts →
        (∀ p ∈ parts, p.schema = t.schema ∧ (t.hasColumns = false → p.schema = [])) ∧
        (Slice.whole t).load store = .ok (.concat t.schema parts)) ∧
    ∀ s n first c trace d d' answer, Cluster.run s n [] first = .ok c → c.Runs trace d →
      d.files = store → d.Performs (.createFromSource t) d' answer →
        match t.resolve store >>= fun t' => (Slice.whole t').load store with
        | .ok b => answer = .ok .done ∧ d'.rowsOf t.name = b.rows
        | .error _ => ∃ x, answer = .error x := by
  constructor
  · intro n hn
    obtain ⟨slices, hp⟩ := Planner.exists_planEvenly hn hv
    refine ⟨slices, hp, Planner.length_planEvenly hn hp, Planner.loads_iff_slices hn hp store, ?_⟩
    intro parts hparts
    obtain ⟨hwhole, hschema⟩ := Planner.load_of_slices hn hp hparts
    refine ⟨fun p hmem => ⟨hschema p hmem, fun hnone => ?_⟩, hwhole⟩
    have hnames : t.columnNames = [] := by simpa [TableReference.hasColumns] using hnone
    rw [hschema p hmem, TableReference.schema, hnames]
    rfl
  · rintro s n first c trace d d' answer hrun hruns rfl hop
    obtain ⟨hc, -⟩ := hosts_of_run hrun
    obtain ⟨fs, hd⟩ := hc.runs hruns
    exact hd.source_eq hm hv hop

/-- Two files of numbers in groups of one row. -/
def numbered : FileStore :=
  let schema : Schema := [⟨"n", .integer int64, true⟩]
  ⟨[("a.parquet", .columnar ⟨schema, [[[.int 1]], [[.int 2]]]⟩),
    ("b.parquet", .columnar ⟨schema, [[[.int 3]], [[.int 4]]]⟩)]⟩

/-- The second group of the first file and both of the other. -/
def grouped : TableReference :=
  { name := "t", kind := .parquet, locations := ["a.parquet", "b.parquet"],
    rowGroups := some [[1], [1, 0]] }

theorem load_slices_grouped : ∃ c d d', Cluster.run .default 1 [] .empty = .ok c ∧
    c.Runs [(c, .store numbered)] d ∧ d.Performs (.createFromSource grouped) d' (.ok .done) ∧
    d'.rowsOf "t" = [[.int 2], [.int 4], [.int 3]] := by
  obtain ⟨c, hrun⟩ := exists_run
  have hruns : c.Runs [(c, .store numbered)] { c with files := numbered } :=
    .cons (.store c numbered) (.nil _)
  have hop := Cluster.performs_perform { c with files := numbered } (.createFromSource grouped)
  obtain ⟨hanswer, hrows⟩ := (load_slices (t := grouped) (.inl rfl) rfl numbered).2 _ _ _ _ _ _ _ _
    hrun hruns rfl hop
  rw [hanswer] at hop
  exact ⟨c, _, _, hrun, hruns, hop, hrows⟩

end Cluster

end ShardQuery
