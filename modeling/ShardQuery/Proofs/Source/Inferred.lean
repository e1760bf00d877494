import ShardQuery.Proofs.Data.Meaning
import ShardQuery.Proofs.Query.Predicate
import ShardQuery.Proofs.Source.Columns
import ShardQuery.Proofs.Table.Plan
import Mathlib.Data.List.Forall2

namespace ShardQuery

theorem Cast.column_eq_ok {R : Cell → Cell → Prop} {cells : List Cell}
    (hc : of? source target = some convert) (h : ∀ c ∈ cells, ∃ d, convert c = some d ∧ R c d) :
    ∃ ds, column source target cells = .ok ds ∧ List.Forall₂ R cells ds := by
  obtain ⟨ds, hds, hrs⟩ := exists_mapM_some_related h
  refine ⟨ds, ?_, hrs⟩
  simp only [column, hc, hds]

theorem Schema.finds_of_nodup {schema : Schema} (hn : (schema.map Field.name).Nodup)
    (hf : schema[i]? = some f) : schema.Finds f.name i f := by
  refine ⟨hf, rfl, fun j hj g hg hname => hj.ne ?_⟩
  have hi : (schema.map Field.name)[i]? = some f.name := by
    rw [List.getElem?_map, hf]
    rfl
  have hj : (schema.map Field.name)[j]? = some f.name := by
    rw [List.getElem?_map, hg, ← hname]
    rfl
  exact (List.getElem?_inj (List.getElem?_eq_some_iff.1 hj).1 hn).1 (hj.trans hi.symm)

namespace Batch

variable {b : Batch} {target : Schema} {R : Field → Field → Cell → Cell → Prop}

/-- Cells of two rows are related at each position, under the fields there. -/
def RowsRelated (R : Field → Field → Cell → Cell → Prop) (source target : Schema)
    (row row' : Row) : Prop :=
  ∀ (i : Nat) (f g : Field), source[i]? = some f → target[i]? = some g →
    R f g (row.cell i) (row'.cell i)

/-- A batch can be cast to a schema of the same names, and the casts relate the cells. -/
structure CastsTo (R : Field → Field → Cell → Cell → Prop) (b : Batch) (target : Schema) :
    Prop where
  distinct : (b.schema.map Field.name).Nodup
  named : target.map Field.name = b.schema.map Field.name
  cast : ∀ (i : Nat) (f g : Field), b.schema[i]? = some f → target[i]? = some g →
    ∃ convert, Cast.of? f.type g.type = some convert ∧
      ∀ c ∈ b.column i, ∃ d, convert c = some d ∧ R f g c d

theorem CastsTo.cellsFor (h : b.CastsTo R target) (hf : b.schema[i]? = some f)
    (hg : target[i]? = some g) :
    ∃ ds, b.cellsFor g = .ok ds ∧ List.Forall₂ (R f g) (b.column i) ds := by
  have hname : g.name = f.name := by
    have hat := congrArg (·[i]?) h.named
    simp only [List.getElem?_map, hf, hg, Option.map_some] at hat
    exact Option.some.inj hat
  obtain ⟨convert, hconvert, hcells⟩ := h.cast i f g hf hg
  obtain ⟨ds, hds, hR⟩ := Cast.column_eq_ok hconvert hcells
  refine ⟨ds, ?_, hR⟩
  rw [Batch.cellsFor, hname, Schema.indexOf?_eq_some_iff.2 ⟨f, Schema.finds_of_nodup h.distinct hf⟩]
  simp only [hf, Option.map_some, Option.getD_some]
  exact hds

theorem CastsTo.field_of_lt (h : b.CastsTo R target) (hi : i < target.length) :
    ∃ f, b.schema[i]? = some f := by
  have hlen := congrArg List.length h.named
  rw [List.length_map, List.length_map] at hlen
  exact ⟨_, List.getElem?_eq_getElem (hlen ▸ hi)⟩

theorem CastsTo.columns (h : b.CastsTo R target) :
    ∃ columns, target.mapM b.cellsFor = .ok columns ∧ (∀ ds ∈ columns, ds.length = b.size) ∧
      ∀ (i : Nat) (f g : Field), b.schema[i]? = some f → target[i]? = some g →
        ∃ ds, columns[i]? = some ds ∧ List.Forall₂ (R f g) (b.column i) ds := by
  have hall : ∀ g ∈ target, ∃ ds, b.cellsFor g = .ok ds := by
    intro g hg
    obtain ⟨i, hi, rfl⟩ := List.getElem_of_mem hg
    obtain ⟨f, hf⟩ := h.field_of_lt hi
    obtain ⟨ds, hds, -⟩ := h.cellsFor hf (List.getElem?_eq_getElem hi)
    exact ⟨ds, hds⟩
  obtain ⟨columns, hcolumns⟩ := Except.exists_mapM_eq_ok_iff.2 hall
  have hcells := Except.mapM_eq_ok_iff.1 hcolumns
  have hfound : ∀ (i : Nat) (f g : Field), b.schema[i]? = some f → target[i]? = some g →
      ∃ ds, columns[i]? = some ds ∧ List.Forall₂ (R f g) (b.column i) ds := by
    intro i f g hf hg
    obtain ⟨ds, hds, hR⟩ := h.cellsFor hf hg
    refine ⟨ds, ?_, hR⟩
    obtain ⟨hi, rfl⟩ := List.getElem?_eq_some_iff.1 hg
    have hi' : i < columns.length := hcells.length_eq ▸ hi
    have hat := hcells.get hi hi'
    rw [List.getElem?_eq_getElem hi']
    exact congrArg some (Except.ok.inj (hat.symm.trans hds))
  refine ⟨columns, hcolumns, fun ds hmem => ?_, hfound⟩
  obtain ⟨i, hi, rfl⟩ := List.getElem_of_mem hmem
  have hi' : i < target.length := hcells.length_eq ▸ hi
  obtain ⟨f, hf⟩ := h.field_of_lt hi'
  obtain ⟨ds, hds, hR⟩ := hfound i f _ hf (List.getElem?_eq_getElem hi')
  rw [List.getElem?_eq_getElem hi] at hds
  cases hds
  rw [← hR.length_eq, column, List.length_map, size]

/-- A batch that can be cast is brought under the schema, and the rows are related cell by cell. -/
theorem CastsTo.conform (h : b.CastsTo R target) (hnull : ∀ g ∈ target, g.nullable = true)
    (hne : target ≠ []) :
    ∃ b', b.conform target = .ok b' ∧ b'.schema = target ∧
      List.Forall₂ (RowsRelated R b.schema target) b.rows b'.rows := by
  by_cases hsame : b.schema = target
  · refine ⟨b, if_pos hsame, hsame, List.forall₂_same.2 fun row hrow i f g hf hg => ?_⟩
    obtain ⟨convert, hconvert, hcells⟩ := h.cast i f g hf hg
    rw [hsame, hg] at hf
    cases hf
    rw [Cast.of?_self] at hconvert
    cases hconvert
    obtain ⟨d, hd, hR⟩ := hcells _ (List.mem_map_of_mem hrow)
    cases hd
    exact hR
  · obtain ⟨columns, hcolumns, hlen, hcells⟩ := h.columns
    refine ⟨⟨target, transposed b.size columns⟩, ?_, rfl, ?_⟩
    · rw [Batch.conform, if_neg hsame, hcolumns, Except.ok_bind, Csv.ofRows_eq_ok hne hnull]
    · refine List.forall₂_iff_get.2 ⟨(length_transposed hlen).symm, ?_⟩
      intro k hk hk' i f g hf hg
      obtain ⟨ds, hds, hR⟩ := hcells i f g hf hg
      rw [← column_transposed hlen hds target, column, column, List.forall₂_map_left_iff,
        List.forall₂_map_right_iff] at hR
      exact hR.get hk hk'

end Batch

namespace ColumnarFile

variable {file : ColumnarFile} {found : Schema} {listed : Option (List Nat)}

/-- A file has some columns, and each cell is one that its column can hold. -/
structure Has (file : ColumnarFile) (found : Schema) : Prop where
  columns : file.schema = found
  typed : ∀ group ∈ file.groups, ∀ row ∈ group, found.describes row = true

/-- The rows of some groups in the order listed, of all groups without a list. -/
def selected (file : ColumnarFile) : Option (List Nat) → List Row
  | none => file.groups.flatten
  | some ids => ids.flatMap fun i => file.groups.getD i []

def Covers (file : ColumnarFile) (listed : Option (List Nat)) : Prop :=
  ∀ ids, listed = some ids → ∀ i ∈ ids, i < file.groups.length

theorem rows_eq_ok (h : file.Covers listed) (path : String) :
    file.rows path listed = .ok (file.selected listed) := by
  cases listed with
  | none => rfl
  | some ids =>
    have hfound : ids.find? (file.groups.length ≤ ·) = none := by
      refine List.find?_eq_none.2 fun i hi => ?_
      exact mt of_decide_eq_true (Nat.not_le.2 (h ids rfl i hi))
    simp only [rows, hfound]
    rfl

theorem Has.describes (h : file.Has found) (hrow : row ∈ file.selected listed) :
    found.describes row = true := by
  cases listed with
  | none =>
    obtain ⟨group, hgroup, hrow⟩ := List.mem_flatten.1 hrow
    exact h.typed group hgroup row hrow
  | some ids =>
    obtain ⟨i, -, hrow⟩ := List.mem_flatMap.1 hrow
    rw [List.getD_eq_getElem?_getD] at hrow
    cases hi : file.groups[i]? with
    | none =>
      rw [hi] at hrow
      cases hrow
    | some group =>
      rw [hi] at hrow
      exact h.typed group (List.mem_of_getElem? hi) row hrow

end ColumnarFile

/-- A column is declared as it was found, under the type for stored values of its type. -/
def Field.DeclaredFrom (found declared : Field) : Prop :=
  ∃ type, ColumnType.ofStored? found.type = some type ∧
    declared = ⟨found.name, type.stored, true⟩

/-- Cells of found columns as they are held under declared types. -/
def Field.Carried (found declared : Field) : Cell → Cell → Prop :=
  found.type.Carried declared.type

namespace TableReference

variable {t t' : TableReference} {store : FileStore} {found : Schema}
  {file : String → ColumnarFile}

/-- The rows that a reference selects: of each file in order, the groups that are listed for it. -/
def selected (t : TableReference) (file : String → ColumnarFile) : List Row :=
  t.locations.zipIdx.flatMap fun (path, i) => (file path).selected (t.groupsAt i)

/-- All files have the same columns, and the groups that are listed. -/
structure Found (t : TableReference) (store : FileStore) (file : String → ColumnarFile)
    (found : Schema) : Prop where
  kind : t.kind = .parquet
  undeclared : t.hasColumns = false
  located : t.locations ≠ []
  columns : found ≠ []
  distinct : (found.map Field.name).Nodup
  reads : ∀ path ∈ t.locations, store.readColumnar path = .ok (file path)
  files : ∀ path ∈ t.locations, (file path).Has found
  groups : ∀ path i, (path, i) ∈ t.locations.zipIdx → (file path).Covers (t.groupsAt i)

theorem declaredType_eq_ok_iff : declaredType path f = .ok type ↔
    ColumnType.ofStored? f.type = some type := by
  rw [declaredType]
  cases ColumnType.ofStored? f.type with
  | none => exact iff_of_false (fun h => by cases h) (fun h => by cases h)
  | some type' =>
    constructor
    · intro h
      exact congrArg some (Except.ok.inj h)
    · intro h
      exact congrArg Except.ok (Option.some.inj h)

theorem Found.resolve (h : t.Found store file found) (hr : t.resolve store = .ok t') :
    ∃ types, List.Forall₂ (fun f type => ColumnType.ofStored? f.type = some type) found types ∧
      t' = { t with columnNames := found.map Field.name, columnTypes := types } := by
  rw [TableReference.resolve] at hr
  split at hr
  · next hnil => exact absurd hnil h.located
  · next path rest hcons =>
    have hpath : path ∈ t.locations := hcons ▸ List.mem_cons_self ..
    have hno : ¬ (t.hasColumns = true ∨ t.kind = .memory) := by
      rw [h.undeclared, h.kind]
      decide
    have hschema : store.schemaOf t.kind path = .ok found := by
      rw [h.kind, FileStore.schemaOf, h.reads path hpath]
      exact congrArg Except.ok (h.files path hpath).columns
    rw [if_neg hno, hschema, Except.ok_bind] at hr
    obtain ⟨types, htypes, hr⟩ := Except.bind_eq_ok_iff.1 hr
    cases hr
    refine ⟨types, (Except.mapM_eq_ok_iff.1 htypes).imp ?_, rfl⟩
    intro f type hf
    exact declaredType_eq_ok_iff.1 hf

/-- Each column is declared as it is found. -/
theorem declaredFrom_zip {types : List ColumnType}
    (h : List.Forall₂ (fun f type => ColumnType.ofStored? f.type = some type) found types) :
    List.Forall₂ Field.DeclaredFrom found
      (((found.map Field.name).zip types).map fun (name, type) => ⟨name, type.stored, true⟩) := by
  induction h with
  | nil => exact .nil
  | cons hf _ ih => exact .cons ⟨_, hf, rfl⟩ ih

theorem Found.declaredFrom (h : t.Found store file found) (hr : t.resolve store = .ok t') :
    List.Forall₂ Field.DeclaredFrom found t'.schema := by
  obtain ⟨types, htypes, rfl⟩ := h.resolve hr
  exact declaredFrom_zip htypes

theorem names_of_declaredFrom {declared : Schema}
    (h : List.Forall₂ Field.DeclaredFrom found declared) :
    declared.map Field.name = found.map Field.name := by
  induction h with
  | nil => rfl
  | cons hf _ ih =>
    obtain ⟨type, -, rfl⟩ := hf
    rw [List.map_cons, List.map_cons, ih]

/-- Rows of a file can be cast to the columns that are declared. -/
theorem castsTo_of_declaredFrom {declared : Schema} {rows : List Row}
    (h : List.Forall₂ Field.DeclaredFrom found declared) (hn : (found.map Field.name).Nodup)
    (hrows : ∀ row ∈ rows, found.describes row = true) :
    Batch.CastsTo Field.Carried ⟨found, rows⟩ declared where
  distinct := hn
  named := names_of_declaredFrom h
  cast i f g hf hg := by
    obtain ⟨hi, rfl⟩ := List.getElem?_eq_some_iff.1 hf
    obtain ⟨hi', rfl⟩ := List.getElem?_eq_some_iff.1 hg
    obtain ⟨type, htype, heq⟩ := h.get hi hi'
    obtain ⟨convert, hconvert, hcells⟩ := DataType.exists_cast htype
    simp only [List.get_eq_getElem] at heq hconvert hcells
    rw [heq]
    refine ⟨convert, hconvert, fun c hc => ?_⟩
    obtain ⟨row, hrow, rfl⟩ := List.mem_map.1 hc
    obtain ⟨d, hd, hcarried⟩ := hcells _ (Schema.contains_of_describes (hrows row hrow) hf)
    exact ⟨d, hd, hcarried⟩

theorem Found.loadFile (h : t.Found store file found) (hr : t.resolve store = .ok t')
    (hp : p ∈ t.locations.zipIdx) :
    ∃ b, t'.loadFile store p.1 p.2 = .ok b ∧ List.Forall₂
      (Batch.RowsRelated Field.Carried found t'.schema) ((file p.1).selected (t.groupsAt p.2))
        b.rows := by
  obtain ⟨path, i⟩ := p
  have hpath : path ∈ t.locations := List.fst_mem_of_mem_zipIdx hp
  have hdeclared := h.declaredFrom hr
  have hread : t'.readFile store path i = .ok ⟨found, (file path).selected (t.groupsAt i)⟩ := by
    obtain ⟨types, -, rfl⟩ := h.resolve hr
    have hrows := ColumnarFile.rows_eq_ok (h.groups path i hp) path
    simp only [readFile, h.kind, h.reads path hpath, Except.ok_bind, (h.files path hpath).columns]
    show ((file path).rows path (t.groupsAt i) >>= _) = _
    rw [hrows]
    rfl
  rw [TableReference.loadFile, hread, Except.ok_bind]
  split
  · next hnil =>
    refine ⟨_, rfl, ?_⟩
    simp only at hnil
    rw [hnil]
    exact .nil
  · have hcasts := castsTo_of_declaredFrom hdeclared h.distinct
      fun row (hrow : row ∈ (file path).selected (t.groupsAt i)) =>
        (h.files path hpath).describes hrow
    have hne : t'.schema ≠ [] := by
      intro hnil
      rw [hnil] at hdeclared
      exact h.columns (List.forall₂_nil_right_iff.1 hdeclared)
    obtain ⟨b, hb, -, hrows⟩ := hcasts.conform (fun g hg => nullable_schema hg) hne
    exact ⟨b, hb, hrows⟩

end TableReference

end ShardQuery
