import ShardQuery.Proofs.Query.Coercion
import ShardQuery.Proofs.Query.Rowwise

namespace ShardQuery

structure Schema.Finds (schema : Schema) (name : String) (i : Nat) (f : Field) : Prop where
  field : schema[i]? = some f
  named : f.name = name
  first : ∀ j < i, ∀ g, schema[j]? = some g → g.name ≠ name

theorem Schema.indexOf?_eq_some_iff {schema : Schema} :
    schema.indexOf? name = some i ↔ ∃ f, schema.Finds name i f := by
  rw [indexOf?, List.findIdx?_eq_some_iff_getElem]
  constructor
  · rintro ⟨hi, hname, hfirst⟩
    refine ⟨schema[i], List.getElem?_eq_getElem hi, of_decide_eq_true hname, fun j hj g hg he => ?_⟩
    apply hfirst j hj
    rw [List.getElem?_eq_getElem (Nat.lt_trans hj hi)] at hg
    rw [Option.some.inj hg]
    exact decide_eq_true he
  · rintro ⟨f, hfield, hname, hfirst⟩
    obtain ⟨hi, rfl⟩ := List.getElem?_eq_some_iff.1 hfield
    refine ⟨hi, decide_eq_true hname, fun j hj hd => ?_⟩
    exact hfirst j hj _ (List.getElem?_eq_getElem (Nat.lt_trans hj hi)) (of_decide_eq_true hd)

theorem Schema.Finds.unique {schema : Schema} (h : schema.Finds name i f)
    (h' : schema.Finds name j g) : i = j ∧ f = g := by
  have hi := Schema.indexOf?_eq_some_iff.2 ⟨f, h⟩
  have hj := Schema.indexOf?_eq_some_iff.2 ⟨g, h'⟩
  obtain rfl := Option.some.inj (hi.symm.trans hj)
  exact ⟨rfl, Option.some.inj (h.field.symm.trans h'.field)⟩

theorem columnIndex_eq_ok_iff : columnIndex schema name = .ok i ↔ ∃ f, schema.Finds name i f := by
  rw [columnIndex, ← Schema.indexOf?_eq_some_iff]
  cases schema.indexOf? name with
  | none => exact iff_of_false (fun h => by cases h) (fun h => by cases h)
  | some j =>
    constructor
    · intro h
      exact congrArg some (Except.ok.inj h)
    · intro h
      exact congrArg Except.ok (Option.some.inj h)

def Schema.Lacks (schema : Schema) (name : String) : Prop := ∀ f ∈ schema, f.name ≠ name

theorem Schema.Finds.not_lacks {schema : Schema} (h : schema.Finds name i f) :
    ¬ schema.Lacks name := fun hno => hno f (List.mem_of_getElem? h.field) h.named

theorem columnIndex_eq_error_iff :
    columnIndex schema name = .error x ↔ schema.Lacks name ∧ x = .columnNotFound name := by
  have hlacks : schema.indexOf? name = none ↔ schema.Lacks name := by
    rw [Schema.indexOf?, List.findIdx?_eq_none_iff]
    exact forall₂_congr fun f _ => decide_eq_false_iff_not
  rw [columnIndex, ← hlacks]
  cases schema.indexOf? name with
  | none =>
    constructor
    · intro h
      exact ⟨rfl, (Except.error.inj h).symm⟩
    · rintro ⟨-, rfl⟩
      rfl
  | some i => exact iff_of_false (fun h => by cases h) (fun h => by cases h.1)

/-- Which orders of a cell to the constant a comparison asks for. -/
def Comparison.Admits : Comparison → Ordering → Prop
  | eq, o => o.isEq
  | ne, o => o.isNe
  | lt, o => o.isLT
  | le, o => o.isLE
  | gt, o => o.isGT
  | ge, o => o.isGE

namespace Predicate

variable {schema : Schema} {b : Batch} {p : Predicate}

def Comparable (schema : Schema) (p : Predicate) : Prop :=
  ∃ i f target constant, schema.Finds p.column i f ∧ p.value.Meets f.type target constant

theorem bind_eq_ok_iff : p.bind schema = .ok t ↔ ∃ i f basis key, schema.Finds p.column i f ∧
    coerce f.type p.value = .ok (basis, key) ∧ t = ⟨i, basis, p.op, key⟩ := by
  rw [bind]
  constructor
  · intro h
    obtain ⟨i, hi, h⟩ := Except.bind_eq_ok_iff.1 h
    obtain ⟨f, hf⟩ := columnIndex_eq_ok_iff.1 hi
    rw [hf.field] at h
    obtain ⟨⟨basis, key⟩, hcoerce, h⟩ := Except.bind_eq_ok_iff.1 h
    cases h
    exact ⟨i, f, basis, key, hf, hcoerce, rfl⟩
  · rintro ⟨i, f, basis, key, hf, hcoerce, rfl⟩
    rw [columnIndex_eq_ok_iff.2 ⟨f, hf⟩, Except.ok_bind, hf.field]
    show coerce f.type p.value >>= _ = _
    rw [hcoerce]
    rfl

theorem exists_bind_iff : (∃ t, p.bind schema = .ok t) ↔ p.Comparable schema := by
  constructor
  · rintro ⟨t, ht⟩
    obtain ⟨i, f, basis, key, hf, hcoerce, -⟩ := bind_eq_ok_iff.1 ht
    obtain ⟨target, constant, hm⟩ := exists_meets hcoerce
    exact ⟨i, f, target, constant, hf, hm⟩
  · rintro ⟨i, f, target, constant, hf, hm⟩
    obtain ⟨key, convert, hcoerce, -⟩ := hm.coerce
    exact ⟨_, bind_eq_ok_iff.2 ⟨i, f, _, key, hf, hcoerce, rfl⟩⟩

/-- A predicate is not bound where its column is not there or cannot be compared. -/
theorem bind_error {p : Predicate} (h : p.bind schema = .error y) :
    (schema.Lacks p.column ∧ y = .columnNotFound p.column) ∨
      (¬ schema.Lacks p.column ∧ ¬ p.Comparable schema) := by
  cases hi : columnIndex schema p.column with
  | error z =>
    rw [bind, hi] at h
    cases h
    exact .inl (columnIndex_eq_error_iff.1 hi)
  | ok i =>
    obtain ⟨f, hf⟩ := columnIndex_eq_ok_iff.1 hi
    refine .inr ⟨hf.not_lacks, fun hc => ?_⟩
    obtain ⟨t, ht⟩ := exists_bind_iff.2 hc
    rw [h] at ht
    cases ht

/-- At a row whose cell is cast to the type where it meets the constant, and stands to it as the
comparison asks. -/
inductive Holds (schema : Schema) (p : Predicate) (row : Row) : Prop where
  | intro (hf : schema.Finds p.column i f) (hm : p.value.Meets f.type target constant)
    (hc : Cast.of? f.type target = some convert) (hd : convert (row.cell i) = some cell)
    (ho : cell.order? constant = some o) (ha : p.op.Admits o)

end Predicate

end ShardQuery
