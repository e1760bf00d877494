import ShardQuery.Query.Explain
import ShardQuery.Proofs.Query.Selection

namespace ShardQuery

/-- The steps of a query over `b` with what each puts out: `u` before the limit and `r` after it. -/
def Explain.steps (q : SelectQuery) (b u r : Batch) : List String :=
  let step (name : String) (out : Batch) := name ++ " rows=" ++ Decimal.natText out.size
  let limit := q.limit.toList.map fun n => step ("LimitExec(fetch=" ++ Decimal.natText n ++ ")") r
  let columns := ", ".intercalate (r.schema.map Field.name)
  let filter := match q.selection with
    | [] => []
    | ps => [step ("FilterExec(" ++ condition ps ++ ")") u]
  limit ++ [step ("ProjectionExec(columns=[" ++ columns ++ "])") u] ++ filter ++
    [step ("MemoryScanExec(table=" ++ q.table ++ ", columns=" ++
      Decimal.natText b.schema.length ++ ")") b]

namespace SelectQuery

variable {q : SelectQuery} {b r : Batch}

/-- Where the rows can be selected, all columns of the predicates are known. -/
theorem bindColumns_of_select (hf : q.select b = .ok filtered)
    (hps : q.positions b.schema = .ok ps) : q.bindColumns b.schema = .ok ps := by
  obtain ⟨ts, hts, -⟩ := select_eq_ok_iff.1 hf
  have hcolumns : ∀ p ∈ q.selection, ∃ i, columnIndex b.schema p.column = .ok i := by
    intro p hp
    obtain ⟨i, f, _, _, hi, -⟩ := exists_tests_iff.1 ⟨ts, hts⟩ p hp
    exact ⟨i, columnIndex_eq_ok_iff.2 ⟨f, hi⟩⟩
  obtain ⟨is, his⟩ := Except.exists_mapM_eq_ok_iff.2 hcolumns
  rw [bindColumns, hps, Except.ok_bind, his]
  rfl

theorem positions_of_bindColumns (h : q.bindColumns schema = .ok ps) :
    q.positions schema = .ok ps := by
  rw [bindColumns] at h
  obtain ⟨is, hps, h⟩ := Except.bind_eq_ok_iff.1 h
  obtain ⟨_, -, h⟩ := Except.bind_eq_ok_iff.1 h
  cases h
  exact hps

theorem size_cut (q : SelectQuery) (b : Batch) :
    (q.cut b).size = min (q.limit.getD b.size) b.size := by
  rw [cut]
  cases q.limit with
  | none => exact (Nat.min_self _).symm
  | some n => exact List.length_take

theorem size_project (b : Batch) (ps : List Nat) : (b.project ps).size = b.size :=
  List.length_map _

theorem schema_of_select (hf : q.select b = .ok filtered) : filtered.schema = b.schema := by
  obtain ⟨ts, -, rfl⟩ := select_eq_ok_iff.1 hf
  rfl

theorem columnNames_eq (hps : q.positions schema = .ok ps) :
    ps.map (Explain.columnName schema) = (ps.filterMap (schema[·]?)).map Field.name := by
  have hfields := map_some_filterMap fun i hi =>
    getElem?_of_picks (positions_eq_ok_iff.1 hps) hi
  have hnames := congrArg (List.map fun f => (f.map Field.name).getD "") hfields
  rw [List.map_map, List.map_map] at hnames
  exact hnames.symm

/-- What is counted is what comes out. -/
theorem physical_eq_steps (hf : q.select b = .ok filtered) (hps : q.positions b.schema = .ok ps) :
    Explain.physical q b.schema ps
        ⟨b.size, filtered.size, min (q.limit.getD filtered.size) filtered.size⟩ =
      Explain.steps q b (filtered.project ps) (q.cut (filtered.project ps)) := by
  have hnames : (q.cut (filtered.project ps)).schema.map Field.name =
      ps.map (Explain.columnName b.schema) := by
    rw [schema_cut, columnNames_eq hps, ← schema_of_select hf]
    rfl
  simp only [Explain.physical, Explain.steps, hnames, size_cut, size_project]
  cases q.selection <;> rfl

theorem explain_of_select (hf : q.select b = .ok filtered) (hps : q.positions b.schema = .ok ps) :
    ∃ logical, q.explain b false = .ok logical ∧ q.explain b true =
      .ok ("== Logical Plan ==\n" ++ logical ++ "== Physical Plan ==\n" ++
        Explain.tree (Explain.steps q b (filtered.project ps) (q.cut (filtered.project ps)))) := by
  refine ⟨Explain.tree (Explain.logical q b.schema ps), ?_, ?_⟩
  · rw [explain, bindColumns_of_select hf hps]
    rfl
  · rw [explain, bindColumns_of_select hf hps, Except.ok_bind, if_pos rfl, rowCounts, hf,
      ← physical_eq_steps hf hps]
    rfl

/-- The views that a query has of itself agree with what it does. -/
theorem plans_agree_with_execution (q : SelectQuery) (b : Batch) :
    ((∃ plan, q.explain b true = .ok plan) ↔ ∃ r, q.execute b = .ok r) ∧
    ∀ r, q.execute b = .ok r →
      q.outputSchema b.schema = .ok r.schema ∧
      ∃ u logical, { q with limit := none }.execute b = .ok u ∧
        q.explain b false = .ok logical ∧
        q.explain b true = .ok ("== Logical Plan ==\n" ++ logical ++ "== Physical Plan ==\n" ++
          Explain.tree (Explain.steps q b u r)) := by
  refine ⟨⟨?_, ?_⟩, fun r h => ?_⟩
  · rintro ⟨plan, h⟩
    rw [explain] at h
    obtain ⟨ps, hps, h⟩ := Except.bind_eq_ok_iff.1 h
    rw [if_pos rfl] at h
    obtain ⟨rows, hrows, -⟩ := Except.bind_eq_ok_iff.1 h
    rw [rowCounts] at hrows
    obtain ⟨filtered, hf, -⟩ := Except.bind_eq_ok_iff.1 hrows
    exact ⟨_, execute_eq_ok_iff.2 ⟨filtered, ps, hf, positions_of_bindColumns hps, rfl⟩⟩
  · rintro ⟨r, h⟩
    obtain ⟨filtered, ps, hf, hps, -⟩ := execute_eq_ok_iff.1 h
    obtain ⟨logical, -, h⟩ := explain_of_select hf hps
    exact ⟨_, h⟩
  · obtain ⟨filtered, ps, hf, hps, rfl⟩ := execute_eq_ok_iff.1 h
    obtain ⟨logical, hlogical, hdetailed⟩ := explain_of_select hf hps
    refine ⟨?_, filtered.project ps, logical, ?_, hlogical, hdetailed⟩
    · rw [outputSchema, hps, schema_cut, ← schema_of_select hf]
      rfl
    · exact execute_eq_ok_iff.2 ⟨filtered, ps, hf, hps, rfl⟩

end SelectQuery

end ShardQuery
