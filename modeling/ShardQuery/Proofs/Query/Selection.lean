import ShardQuery.Proofs.Query.Predicate
import ShardQuery.Proofs.List

namespace ShardQuery

/-- The positions of the columns that a projection lists, each the first of its name. -/
inductive Projection.Picks (schema : Schema) : Projection → List Nat → Prop where
  | all : Picks schema .all (List.range schema.length)
  | columns {names : List String}
      (h : List.Forall₂ (fun name i => ∃ f, schema.Finds name i f) names ps) :
    Picks schema (.columns names) ps

namespace SelectQuery

variable {q : SelectQuery} {b r : Batch}

theorem positions_eq_ok_iff :
    q.positions schema = .ok ps ↔ q.projection.Picks schema ps := by
  rw [positions]
  cases q.projection with
  | all =>
    constructor
    · intro h
      cases h
      exact .all
    · rintro ⟨⟩
      rfl
  | columns names =>
    show names.mapM (columnIndex schema) = .ok ps ↔ _
    rw [Except.mapM_eq_ok_iff]
    simp only [columnIndex_eq_ok_iff]
    exact ⟨.columns, fun | .columns h => h⟩

/-- A result whose columns stand at `ps`, of the rows that `keep` names. -/
structure Gives (q : SelectQuery) (b r : Batch) (ps : List Nat) (keep : Row → Bool) : Prop where
  columns : q.projection.Picks b.schema ps
  schema : r.schema.map some = ps.map (b.schema[·]?)
  kept : ∀ row ∈ b.rows, keep row = true ↔ ∀ p ∈ q.selection, p.Holds b.schema row
  rows : r.rows = q.limit.elim id List.take ((b.rows.filter keep).map (Row.pick · ps))

theorem exists_tests_iff :
    (∃ ts, q.tests schema = .ok ts) ↔ ∀ p ∈ q.selection, p.Comparable schema := by
  rw [tests, Except.exists_mapM_eq_ok_iff]
  exact forall₂_congr fun p _ => Predicate.exists_bind_iff

theorem getElem?_of_picks (h : Projection.Picks schema p ps) (hi : i ∈ ps) :
    ∃ f, schema[i]? = some f := by
  cases h with
  | all => exact ⟨_, List.getElem?_eq_getElem (List.mem_range.1 hi)⟩
  | columns h =>
    induction h with
    | nil => cases hi
    | cons hname _ ih =>
      rcases List.mem_cons.1 hi with rfl | hi
      · obtain ⟨f, hf⟩ := hname
        exact ⟨f, hf.field⟩
      · exact ih hi

theorem schema_cut (q : SelectQuery) (b : Batch) : (q.cut b).schema = b.schema := by
  rw [cut]
  cases q.limit <;> rfl

/-- Measurements with a gap, one that is no number, and two columns of one name. -/
def measured : Batch :=
  ⟨[⟨"n", .integer ⟨true, .bits8⟩, true⟩, ⟨"x", .float .double, false⟩, ⟨"n", .boolean, false⟩],
    [[.int 1, .float (Binary.double.ofInt 7), .bool true],
     [.null, .float (Binary.double.ofInt 7), .bool true],
     [.int 3, .float Binary.double.quietNaN, .bool true],
     [.int 4, .float (Binary.double.ofInt (-1)), .bool false],
     [.int 5, .float (Binary.double.ofInt 7), .bool false]]⟩

end SelectQuery

end ShardQuery
