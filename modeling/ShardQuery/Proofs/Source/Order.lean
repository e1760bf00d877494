import ShardQuery.Proofs.Source.Columns
import ShardQuery.Proofs.List

namespace ShardQuery

namespace Csv

variable {σ : List Nat} {names t : List String}

def permuted (σ : List Nat) (fields : List String) : List String := σ.map (fields.getD · "")

/-- A record with its fields in another order. One of another length stays as it is. -/
def reorder (σ : List Nat) (r : Record) : Record :=
  if r.length = σ.length then σ.map (r.getD · none) else r

theorem permuted_perm (hσ : σ.Perm (List.range t.length)) : (permuted σ t).Perm t := by
  have hmap : (List.range t.length).map (t.getD · "") = t := (eq_map_getD "" rfl).symm
  exact (hσ.map _).trans (.of_eq hmap)

theorem map_some_getD (hσ : σ.Perm (List.range t.length)) :
    σ.map ((t.map some).getD · none) = (permuted σ t).map some := by
  rw [permuted, List.map_map]
  refine List.map_congr_left fun i hi => ?_
  have hlt := List.mem_range.1 (hσ.mem_iff.1 hi)
  simp [List.getD_eq_getElem?_getD, hlt]

theorem text?_reorder (hσ : σ.Perm (List.range n)) (r : Record) :
    text? n (reorder σ r) = (text? n r).map (permuted σ) := by
  have hlen : σ.length = n := by rw [hσ.length_eq, List.length_range]
  by_cases hr : r.length = n
  · rw [reorder, if_pos (hr.trans hlen.symm), text?, text?, if_pos hr,
      if_pos (by rw [List.length_map, hlen])]
    cases ht : r.mapM id with
    | none =>
      obtain ⟨o, ho, hnone⟩ := mapM_eq_none_iff.1 ht
      obtain ⟨i, hi, rfl⟩ := List.getElem_of_mem ho
      refine mapM_eq_none_iff.2 ⟨r.getD i none, List.mem_map_of_mem ?_, ?_⟩
      · exact hσ.mem_iff.2 (List.mem_range.2 (hr ▸ hi))
      · rw [List.getD_eq_getElem?_getD, List.getElem?_eq_getElem hi]
        exact hnone
    | some t =>
      have hmap : r = t.map some := by rw [← mapM_eq_some_iff.1 ht, List.map_id]
      subst hmap
      rw [List.length_map] at hr
      rw [map_some_getD (hr ▸ hσ)]
      exact mapM_eq_some_iff.2 (List.map_id _)
  · rw [reorder, if_neg (by rwa [hlen]), text?, if_neg hr]
    rfl

theorem texts?_reorder (hσ : σ.Perm (List.range n)) (rs : List Record) :
    texts? n (rs.map (reorder σ)) = (texts? n rs).map (List.map (permuted σ)) := by
  rw [texts?_eq, texts?_eq, ← mapM_map_option, List.mapM_map]
  exact mapM_congr_option fun r _ => text?_reorder hσ r

theorem idxOf_of_getElem? {l : List String} (hn : l.Nodup) (h : l[i]? = some name) :
    l.idxOf name = i := by
  obtain ⟨hi, rfl⟩ := List.getElem?_eq_some_iff.1 h
  exact hn.idxOf_getElem i hi

/-- A field is found under its name, wherever both are. -/
theorem fieldOf_permuted (hσ : σ.Perm (List.range names.length)) (hn : names.Nodup)
    (hname : name ∈ names) :
    fieldOf (permuted σ names) (permuted σ t) name = fieldOf names t name := by
  have hperm := permuted_perm hσ
  obtain ⟨j, hj⟩ := List.getElem?_of_mem (hperm.mem_iff.2 hname)
  have hidx' := idxOf_of_getElem? (hperm.nodup_iff.2 hn) hj
  rw [permuted, List.getElem?_map] at hj
  obtain ⟨i, hi, hget⟩ := Option.map_eq_some_iff.1 hj
  have hlt := List.mem_range.1 (hσ.mem_iff.1 (List.mem_of_getElem? hi))
  have hidx : names.idxOf name = i := by
    apply idxOf_of_getElem? hn
    rw [← hget, List.getD_eq_getElem?_getD, List.getElem?_eq_getElem hlt]
    rfl
  rw [fieldOf, fieldOf, hidx, hidx', permuted, List.getD_eq_getElem?_getD, List.getElem?_map, hi]
  rfl

theorem readBy_permuted (hσ : σ.Perm (List.range names.length)) (hn : names.Nodup)
    {schema : Schema} (hs : ∀ f ∈ schema, f.name ∈ names)
    (read : DataType → List String → Option (List Cell)) (ts : List (List String)) :
    readBy read schema (permuted σ names) (ts.map (permuted σ)) = readBy read schema names ts := by
  have hcolumns : ∀ f ∈ schema,
      read f.type (fieldsOf (permuted σ names) (ts.map (permuted σ)) f.name) =
        read f.type (fieldsOf names ts f.name) := by
    intro f hf
    rw [fieldsOf, List.map_map]
    exact congrArg _ (List.map_congr_left fun t _ => fieldOf_permuted hσ hn (hs f hf))
  rw [readBy, mapM_congr_option hcolumns, List.length_map]
  rfl

/-- Two ways of reading a file come to the same if both fail or all columns come out alike. -/
theorem readBy_eq_iff {read read' : DataType → List String → Option (List Cell)}
    (hread : KeepsLength read) (hread' : KeepsLength read') {schema : Schema}
    {ts : List (List String)} :
    readBy read schema names ts = readBy read' schema names ts ↔
      ((∃ f ∈ schema, read f.type (fieldsOf names ts f.name) = none) ∧
        ∃ f ∈ schema, read' f.type (fieldsOf names ts f.name) = none) ∨
      ∀ f ∈ schema, read f.type (fieldsOf names ts f.name) =
        read' f.type (fieldsOf names ts f.name) := by
  rw [← readBy_eq_none_iff, ← readBy_eq_none_iff]
  constructor
  · intro he
    cases hb : readBy read' schema names ts with
    | none =>
      rw [hb] at he
      exact .inl ⟨he, rfl⟩
    | some b =>
      rw [hb] at he
      obtain ⟨columns, hcolumns, rfl⟩ := Option.map_eq_some_iff.1 he
      obtain ⟨columns', hcolumns', he'⟩ := Option.map_eq_some_iff.1 hb
      have hlen : columns'.length = columns.length := by
        rw [length_of_mapM_some hcolumns, length_of_mapM_some hcolumns']
      cases Batch.transposed_injective hlen (length_of_columns hread' hcolumns')
        (length_of_columns hread hcolumns) (congrArg Batch.rows he')
      have hmap := (mapM_eq_some_iff.1 hcolumns).trans (mapM_eq_some_iff.1 hcolumns').symm
      exact .inr (List.map_inj_left.1 hmap)
  · rintro (⟨hnone, hnone'⟩ | hall)
    · rw [hnone, hnone']
    · rw [readBy, readBy, mapM_congr_option hall]

end Csv

namespace TableReference

open Csv

variable {t : TableReference} {store store' : FileStore} {recs : List Record}
  {names : List String} {σ : List Nat}

/-- What a file comes to as the only one of a table, if it comes to anything. -/
def loadFrom? (t : TableReference) (store : FileStore) (path : String) : Option Batch :=
  ((Slice.whole (t.ofFile path)).load store).toOption

/--
The columns of a file read alike as the declared types and as what they show: some column fails
either way, or no column differs.
-/
def ReadsAlike (t : TableReference) (names : List String) (ts : List (List String)) : Prop :=
  ((∃ f ∈ t.schema, asDeclared f.type (fieldsOf names ts f.name) = none) ∧
    ∃ f ∈ t.schema, asShown f.type (fieldsOf names ts f.name) = none) ∨
  ∀ f ∈ t.schema, asDeclared f.type (fieldsOf names ts f.name) =
    asShown f.type (fieldsOf names ts f.name)

/-- A file with its columns in another order is read column by column from the first one's lines. -/
theorem loadFrom?_permuted (hk : t.kind = .csv)
    (hl : t.columnNames.length = t.columnTypes.length) (hh : recs.headD [] = names.map some)
    (hp : names.Perm t.columnNames) (hn : names.Nodup)
    (hσ : σ.Perm (List.range names.length))
    (hr : store.recordsAt path = .ok (recs.map (reorder σ))) :
    t.loadFrom? store path = (texts? names.length recs.tail).bind
      (readBy (t.reading (permuted σ names)) t.schema names) := by
  have hperm := permuted_perm hσ
  have hheader : (recs.map (reorder σ)).headD [] = (permuted σ names).map some := by
    rw [← map_some_getD hσ, ← hh]
    cases recs with
    | nil =>
      cases List.map_eq_nil_iff.1 hh.symm
      cases hσ.eq_nil
      rfl
    | cons header rows =>
      have hlen : header.length = σ.length := by
        have hheader : header = names.map some := hh
        rw [hσ.length_eq, List.length_range, hheader, List.length_map]
      exact if_pos hlen
  have hload := load_ofFile_eq hk hl hr hheader (hperm.trans hp) (hperm.nodup_iff.2 hn)
  rw [loadFrom?, Slice.load, Slice.whole, hload, hperm.length_eq, ← List.map_tail,
    texts?_reorder hσ]
  cases texts? names.length recs.tail with
  | none => rfl
  | some ts =>
    refine readBy_permuted hσ hn (fun f hf => ?_) _ ts
    rw [hp.mem_iff, ← names_schema hl]
    exact List.mem_map_of_mem hf

theorem reads_eq_iff {rs : List Record} : (texts? n rs).bind (readBy asDeclared t.schema names) =
    (texts? n rs).bind (readBy asShown t.schema names) ↔
      ∀ ts, texts? n rs = some ts → t.ReadsAlike names ts := by
  cases texts? n rs with
  | none => exact iff_of_true rfl fun ts hts => by cases hts
  | some ts =>
    rw [Option.bind_some, Option.bind_some,
      readBy_eq_iff keepsLength_asDeclared keepsLength_asShown]
    constructor
    · intro h ts' hts
      cases hts
      exact h
    · intro h
      exact h ts rfl

/--
The order of the columns of a file shows only if the header of one of two files is in the declared
order and that of the other is not. Such files come to the same exactly if their columns read alike
as the declared types and as what they show, as they do if they show the declared types.
-/
theorem loadFrom?_reordered (hk : t.kind = .csv) (hn : t.columnNames.Nodup)
    (hl : t.columnNames.length = t.columnTypes.length)
    (hr : store.recordsAt path = .ok recs) (hh : recs.headD [] = names.map some)
    (hp : names.Perm t.columnNames) (hσ : σ.Perm (List.range names.length))
    (hr' : store'.recordsAt path' = .ok (recs.map (reorder σ))) :
    ((names = t.columnNames ↔ permuted σ names = t.columnNames) →
      t.loadFrom? store path = t.loadFrom? store' path') ∧
    (¬ (names = t.columnNames ↔ permuted σ names = t.columnNames) →
      (t.loadFrom? store path = t.loadFrom? store' path' ↔
        ∀ ts, texts? names.length recs.tail = some ts → t.ReadsAlike names ts)) ∧
    ∀ ts, texts? names.length recs.tail = some ts →
      (∀ f ∈ t.schema, shownType (fieldsOf names ts f.name) = f.type) →
        t.loadFrom? store path = t.loadFrom? store' path' := by
  have hnames := hp.nodup_iff.2 hn
  have hload : t.loadFrom? store path = _ := load_ofFile_eq hk hl hr hh hp hnames
  have hload' := loadFrom?_permuted hk hl hh hp hnames hσ hr'
  have hsame : (names = t.columnNames ↔ permuted σ names = t.columnNames) →
      t.loadFrom? store path = t.loadFrom? store' path' := by
    intro h
    rw [hload, hload', reading, reading]
    simp only [h]
  have hother : ¬ (names = t.columnNames ↔ permuted σ names = t.columnNames) →
      (t.loadFrom? store path = t.loadFrom? store' path' ↔
        ∀ ts, texts? names.length recs.tail = some ts → t.ReadsAlike names ts) := by
    intro h
    rw [hload, hload', reading, reading, ← reads_eq_iff]
    by_cases hd : names = t.columnNames
    · rw [if_pos hd, if_neg fun hd' => h (iff_of_true hd hd')]
    · rw [if_neg hd, if_pos (not_not.1 fun hd' => h (iff_of_false hd hd')), eq_comm]
  refine ⟨hsame, hother, fun ts hts hshown => ?_⟩
  by_cases h : names = t.columnNames ↔ permuted σ names = t.columnNames
  · exact hsame h
  · refine (hother h).2 fun ts' hts' => .inr fun f hf => ?_
    cases hts.symm.trans hts'
    rw [asShown_of_shownType (hshown f hf)]


def measures : FileStore :=
  ⟨[("a.csv", .ofText "id,size\n1,1.5\n"), ("b.csv", .ofText "size,id\n1.5,1\n")]⟩

def measured : TableReference :=
  { name := "t", kind := .csv, locations := [], columnNames := ["id", "size"],
    columnTypes := [.integer int64, .float64] }

theorem loadFrom?_measured :
    measured.loadFrom? measures "a.csv" = measured.loadFrom? measures "b.csv" ∧
      (measured.loadFrom? measures "b.csv").isSome = true := by
  have hr : measures.recordsAt "a.csv" =
      .ok [["id", "size"].map some, ["1", "1.5"].map some] := by decide +kernel
  obtain ⟨-, -, hshown⟩ := loadFrom?_reordered (t := measured) (σ := [1, 0]) rfl (by decide) rfl hr rfl
    (.refl _) (by decide) (by decide +kernel : measures.recordsAt "b.csv" = _)
  exact ⟨hshown [["1", "1.5"]] rfl (by decide +kernel), by decide +kernel⟩

def codes : FileStore :=
  ⟨[("a.csv", .ofText "id,code\n1,007\n"), ("b.csv", .ofText "code,id\n007,1\n")]⟩

def coded : TableReference :=
  { name := "t", kind := .csv, locations := [], columnNames := ["id", "code"],
    columnTypes := [.integer int64, .text] }

/-- The order of the columns of a file can matter: a text that is read as a number is shortened. -/
theorem loadFrom?_coded :
    ¬ ∀ (t : TableReference) (store store' : FileStore) (path path' : String)
      (recs : List Record) (σ : List Nat), t.kind = .csv → t.columnNames.Nodup →
        t.columnNames.length = t.columnTypes.length → store.recordsAt path = .ok recs →
        (recs.headD []).Perm (t.columnNames.map some) →
        σ.Perm (List.range t.columnNames.length) →
        store'.recordsAt path' = .ok (recs.map (reorder σ)) →
          t.loadFrom? store path = t.loadFrom? store' path' := by
  intro h
  have hr : codes.recordsAt "a.csv" =
      .ok [["id", "code"].map some, ["1", "007"].map some] := by decide +kernel
  have hfirst : coded.loadFrom? codes "a.csv" =
      some ⟨coded.schema, [[.int 1, .text "007"]]⟩ := by decide +kernel
  have hsecond : coded.loadFrom? codes "b.csv" =
      some ⟨coded.schema, [[.int 1, .text "7"]]⟩ := by decide +kernel
  have hequal := h coded codes codes "a.csv" "b.csv" _ [1, 0] rfl (by decide) rfl hr (.refl _)
    (by decide) (by decide +kernel)
  rw [hfirst, hsecond] at hequal
  exact absurd hequal (by decide)

end TableReference

end ShardQuery
