import ShardQuery.Engine
import ShardQuery.Proofs.Except

namespace ShardQuery

def Test.passes (t : Test) (row : Row) : Bool :=
  match t.basis.key? (row.cell t.position) with
  | some k => t.op.holds (k.order t.key)
  | none => false

theorem Batch.keep_map (b : Batch) (f : Row → Option Bool) :
    b.keep (b.rows.map f) = b.filter fun row => f row = some true := by
  have hrows (rows : List Row) :
      ((rows.zip (rows.map f)).filter (·.2 = some true)).map Prod.fst =
        rows.filter fun row => f row = some true := by
    induction rows with
    | nil => rfl
    | cons row rows ih =>
      rw [List.map_cons, List.zip_cons_cons, List.filter_cons, List.filter_cons, ← ih]
      split
      · rfl
      · rfl
  rw [keep, filter, hrows]

def Test.mark (t : Test) (row : Row) : Option Bool :=
  (t.basis.key? (row.cell t.position)).map fun k => t.op.holds (k.order t.key)

theorem Test.mask_eq (t : Test) (b : Batch) : t.mask b = b.rows.map t.mark := by
  rw [mask, Batch.column, List.map_map]
  rfl

theorem Test.passes_eq (t : Test) (row : Row) : t.passes row = decide (t.mark row = some true) := by
  rw [passes, mark]
  cases t.basis.key? (row.cell t.position) with
  | none => rfl
  | some k => simp

theorem Predicate.evaluate_eq (p : Predicate) (b : Batch) :
    p.evaluate b = (p.bind b.schema).map fun t => b.rows.map t.mark := by
  rw [evaluate]
  cases p.bind b.schema with
  | error x => rfl
  | ok t =>
    rw [Except.ok_bind, t.mask_eq]
    rfl

theorem Mask.both_map (rows : List Row) (f g : Row → Option Bool) :
    Mask.both (rows.map f) (rows.map g) =
      rows.map fun row => (f row).bind fun a => (g row).map (a && ·) := by
  rw [both, List.zipWith_map, List.zipWith_self]

namespace SelectQuery

/-- The tests of the `WHERE` clause, or the first error in its order. -/
def tests (q : SelectQuery) (schema : Schema) : Except QueryError (List Test) :=
  q.selection.mapM (Predicate.bind schema)

theorem joined_none (b : Batch) (p : Predicate) :
    joined b none p = (p.bind b.schema).map fun t => some (b.rows.map t.mark) := by
  rw [joined, p.evaluate_eq]
  cases p.bind b.schema <;> rfl

def narrowed (f : Row → Option Bool) (t : Test) (row : Row) : Option Bool :=
  (f row).bind fun a => (t.mark row).map (a && ·)

theorem joined_some (b : Batch) (f : Row → Option Bool) (p : Predicate) :
    joined b (some (b.rows.map f)) p =
      (p.bind b.schema).map fun t => some (b.rows.map (narrowed f t)) := by
  rw [joined, p.evaluate_eq]
  cases p.bind b.schema with
  | error x => rfl
  | ok t =>
    show Except.ok (some (Mask.both (b.rows.map f) (b.rows.map t.mark))) = _
    rw [Mask.both_map]
    rfl

/-- A conjunction is true where both sides are, as it skips nulls. -/
theorem narrowed_eq_some_true :
    narrowed f t row = some true ↔ f row = some true ∧ t.passes row = true := by
  rw [narrowed, t.passes_eq, decide_eq_true_iff]
  cases f row with
  | none => simp
  | some a => cases t.mark row <;> cases a <;> simp

theorem foldl_narrowed_eq_some_true {ts : List Test} :
    ts.foldl narrowed f row = some true ↔
      f row = some true ∧ ts.all (·.passes row) = true := by
  induction ts generalizing f with
  | nil => simp
  | cons t ts ih =>
    rw [List.foldl_cons, ih, narrowed_eq_some_true, List.all_cons, Bool.and_eq_true, and_assoc]

/-- The predicates are bound one after another, and each narrows the rows. -/
theorem foldlM_joined (b : Batch) (f : Row → Option Bool) (ps : List Predicate) :
    ps.foldlM (joined b) (some (b.rows.map f)) =
      (ps.mapM (Predicate.bind b.schema)).map fun ts =>
        some (b.rows.map (ts.foldl narrowed f)) := by
  induction ps generalizing f with
  | nil => rfl
  | cons p ps ih =>
    rw [List.foldlM_cons, List.mapM_cons, joined_some]
    cases p.bind b.schema with
    | error x => rfl
    | ok t =>
      show ps.foldlM (joined b) (some (b.rows.map (narrowed f t))) = _
      rw [ih]
      cases ps.mapM (Predicate.bind b.schema) <;> rfl

theorem keep_foldl_narrowed (b : Batch) (t : Test) (ts : List Test) :
    b.keep (b.rows.map (ts.foldl narrowed t.mark)) =
      b.filter fun row => (t :: ts).all (·.passes row) := by
  rw [Batch.keep_map]
  congr 1
  funext row
  rw [List.all_cons, t.passes_eq, Bool.eq_iff_iff, decide_eq_true_iff,
    foldl_narrowed_eq_some_true, Bool.and_eq_true, decide_eq_true_iff]

/-- The joined masks keep the rows that pass each test. -/
theorem select_eq (q : SelectQuery) (b : Batch) :
    q.select b = q.tests b.schema >>= fun ts =>
      .ok (b.filter fun row => ts.all (·.passes row)) := by
  rw [select, mask?, tests]
  cases q.selection with
  | nil =>
    show Except.ok b = Except.ok (b.filter fun _ => true)
    rw [Batch.filter, List.filter_eq_self.2 fun _ _ => rfl]
  | cons p ps =>
    rw [List.foldlM_cons, List.mapM_cons, joined_none]
    cases p.bind b.schema with
    | error x => rfl
    | ok t =>
      show ps.foldlM (joined b) (some (b.rows.map t.mark)) >>= _ = _
      rw [foldlM_joined]
      cases ps.mapM (Predicate.bind b.schema) with
      | error x => rfl
      | ok ts => exact congrArg Except.ok (keep_foldl_narrowed b t ts)

theorem select_eq_ok_iff {q : SelectQuery} : q.select b = .ok filtered ↔
    ∃ ts, q.tests b.schema = .ok ts ∧ filtered = b.filter fun row => ts.all (·.passes row) := by
  rw [select_eq, Except.bind_eq_ok_iff]
  refine exists_congr fun ts => and_congr_right fun _ => ?_
  rw [Except.ok.injEq, eq_comm]

theorem execute_eq_ok_iff {q : SelectQuery} : q.execute b = .ok r ↔ ∃ filtered ps,
    q.select b = .ok filtered ∧ q.positions b.schema = .ok ps ∧
      r = q.cut (filtered.project ps) := by
  rw [execute]
  constructor
  · intro h
    obtain ⟨filtered, hf, h⟩ := Except.bind_eq_ok_iff.1 h
    obtain ⟨ps, hps, h⟩ := Except.bind_eq_ok_iff.1 h
    cases h
    exact ⟨filtered, ps, hf, hps, rfl⟩
  · rintro ⟨filtered, ps, hf, hps, rfl⟩
    rw [hf, Except.ok_bind, hps]
    rfl

/-- What a query without a limit gives for one row, from bound tests and columns. -/
def rowResult (ts : List Test) (ps : List Nat) (row : Row) : Option Row :=
  if ts.all (·.passes row) then some (row.pick ps) else none

theorem filter_project (b : Batch) (ts : List Test) (ps : List Nat) :
    (b.filter fun row => ts.all (·.passes row)).project ps =
      ⟨ps.filterMap (b.schema[·]?), b.rows.filterMap (rowResult ts ps)⟩ := by
  have hrows : (b.rows.filter fun row => ts.all (·.passes row)).map (Row.pick · ps) =
      b.rows.filterMap (rowResult ts ps) := by
    induction b.rows with
    | nil => rfl
    | cons row rows ih =>
      rw [List.filter_cons, List.filterMap_cons, rowResult]
      split
      · rw [List.map_cons, ih]
      · exact ih
  rw [Batch.project, ← hrows]
  rfl

theorem execute_of_limit {q : SelectQuery} (hl : q.limit = none) (b : Batch) :
    q.execute b = q.tests b.schema >>= fun ts => q.positions b.schema >>= fun ps =>
      .ok ⟨ps.filterMap (b.schema[·]?), b.rows.filterMap (rowResult ts ps)⟩ := by
  rw [execute, select_eq]
  cases q.tests b.schema with
  | error x => rfl
  | ok ts =>
    rw [Except.ok_bind, Except.ok_bind]
    cases q.positions b.schema with
    | error x => rfl
    | ok ps =>
      rw [Except.ok_bind, Except.ok_bind, filter_project, Except.ok_bind, cut, hl]

/-- The columns decide between an error and a treatment of rows. -/
theorem execute_cases {q : SelectQuery} (hl : q.limit = none) (schema : Schema) :
    (∃ x, ∀ b, b.schema = schema → q.execute b = .error x) ∨
      ∃ out f, ∀ b, b.schema = schema → q.execute b = .ok ⟨out, b.rows.filterMap f⟩ := by
  cases ht : q.tests schema with
  | error x =>
    refine .inl ⟨x, fun b hb => ?_⟩
    rw [execute_of_limit hl, hb, ht, Except.error_bind]
  | ok ts =>
    cases hp : q.positions schema with
    | error x =>
      refine .inl ⟨x, fun b hb => ?_⟩
      rw [execute_of_limit hl, hb, ht, Except.ok_bind, hp, Except.error_bind]
    | ok ps =>
      refine .inr ⟨ps.filterMap (schema[·]?), rowResult ts ps, fun b hb => ?_⟩
      rw [execute_of_limit hl, hb, ht, Except.ok_bind, hp, Except.ok_bind]

theorem size_execute_le {q : SelectQuery} (h : q.execute b = .ok r) (hl : q.limit = some n) :
    r.size ≤ n := by
  obtain ⟨filtered, ps, -, -, rfl⟩ := execute_eq_ok_iff.1 h
  rw [cut, hl]
  exact List.length_take_le ..

theorem outputSchema_of_execute {q : SelectQuery} (h : q.execute b = .ok r) :
    ∃ s, q.outputSchema b.schema = .ok s := by
  obtain ⟨_, ps, -, hps, -⟩ := execute_eq_ok_iff.1 h
  exact ⟨_, by rw [outputSchema, hps, Except.ok_bind]⟩

end SelectQuery

namespace Engine

/-- Preparing a query and running it comes to executing it over its table. -/
theorem prepare_run_eq_ok_iff (e : Engine) (sql : String) :
    e.prepare sql >>= Prepared.run = .ok r ↔
      ∃ q b, parseQuery sql = .ok q ∧ e.table q.table = .ok b ∧ q.execute b = .ok r := by
  constructor
  · intro h
    obtain ⟨p, hp, hr⟩ := Except.bind_eq_ok_iff.1 h
    rw [prepare] at hp
    obtain ⟨q, hq, hp⟩ := Except.bind_eq_ok_iff.1 hp
    obtain ⟨b, hb, hp⟩ := Except.bind_eq_ok_iff.1 hp
    obtain ⟨_, _, hp⟩ := Except.bind_eq_ok_iff.1 hp
    cases hp
    exact ⟨q, b, hq, hb, hr⟩
  · rintro ⟨q, b, hq, hb, hr⟩
    obtain ⟨s, hs⟩ := SelectQuery.outputSchema_of_execute hr
    rw [prepare, hq, Except.ok_bind, hb, Except.ok_bind, hs, Except.ok_bind, Except.ok_bind]
    exact hr

theorem table_eq_ok_iff {e : Engine} : e.table name = .ok b ↔ e.tables.find? name = some b := by
  rw [table]
  cases e.tables.find? name with
  | none =>
    constructor
    · intro h
      cases h
    · intro h
      cases h
  | some t =>
    constructor
    · intro h
      exact congrArg some (Except.ok.inj h)
    · intro h
      exact congrArg Except.ok (Option.some.inj h)

theorem prepare_run_iff {e : Engine} (hq : parseQuery sql = .ok q) :
    e.prepare sql >>= Prepared.run = .ok r ↔
      ∃ b, e.tables.find? q.table = some b ∧ q.execute b = .ok r := by
  rw [prepare_run_eq_ok_iff]
  constructor
  · rintro ⟨q', b, hq', hb, hr⟩
    cases hq.symm.trans hq'
    exact ⟨b, table_eq_ok_iff.1 hb, hr⟩
  · rintro ⟨b, hb, hr⟩
    exact ⟨q, b, hq, table_eq_ok_iff.2 hb, hr⟩

end Engine

end ShardQuery
