import ShardQuery.Source.Load
import ShardQuery.Proofs.Except
import ShardQuery.Proofs.Option
import Mathlib.Data.List.Nodup

namespace ShardQuery

namespace Batch

/-- What is found cell by cell is found row by row and column by column. -/
theorem mapM_transposed (g : α → β → Option Cell) (fs : List α) (ts : List β) :
    (ts.mapM fun t => fs.mapM (g · t)) =
      (fs.mapM fun f => ts.mapM (g f)).map (transposed ts.length) := by
  induction fs with
  | nil =>
    refine mapM_eq_some_iff.2 ?_
    simp [transposed]
  | cons f fs ih =>
    simp only [mapM_cons_option]
    rw [mapM_zipWith_cons (g f) (fun t => fs.mapM (g · t)) ts, ih]
    cases ts.mapM (g f) with
    | none => rfl
    | some c => cases fs.mapM fun f => ts.mapM (g f) <;> rfl

theorem length_transposed {columns : List (List Cell)} (h : ∀ c ∈ columns, c.length = n) :
    (transposed n columns).length = n := by
  induction columns with
  | nil => exact List.length_replicate
  | cons c columns ih =>
    have hrest := ih fun c hc => h c (List.mem_cons_of_mem _ hc)
    show (List.zipWith _ c (transposed n columns)).length = n
    rw [List.length_zipWith, hrest, h c (List.mem_cons_self ..), Nat.min_self]

theorem column_transposed {columns : List (List Cell)} (h : ∀ c ∈ columns, c.length = n)
    (hi : columns[i]? = some c) (schema : Schema) :
    column ⟨schema, transposed n columns⟩ i = c := by
  induction columns generalizing i with
  | nil => cases hi
  | cons d columns ih =>
    have hrest : ∀ c ∈ columns, c.length = n := fun c hc => h c (List.mem_cons_of_mem _ hc)
    have hlen : d.length = (transposed n columns).length := by
      rw [length_transposed hrest, h d (List.mem_cons_self ..)]
    show (List.zipWith _ d (transposed n columns)).map (Row.cell · i) = c
    rw [List.map_zipWith]
    cases i with
    | zero =>
      cases hi
      show List.zipWith (fun a _ => a) c _ = c
      rw [← List.map_uncurry_zip_eq_zipWith]
      exact List.map_fst_zip (Nat.le_of_eq hlen)
    | succ i =>
      rw [← ih hrest hi]
      show List.zipWith (fun _ r => Row.cell r i) d _ = _
      rw [← List.map_uncurry_zip_eq_zipWith, column]
      conv => rhs; rw [← List.map_snd_zip (Nat.le_of_eq hlen.symm), List.map_map]
      rfl

theorem transposed_injective {columns columns' : List (List Cell)}
    (hlen : columns.length = columns'.length) (h : ∀ c ∈ columns, c.length = n)
    (h' : ∀ c ∈ columns', c.length = n) (he : transposed n columns = transposed n columns') :
    columns = columns' := by
  refine List.ext_getElem hlen fun i hi hi' => ?_
  have hc := column_transposed h (List.getElem?_eq_getElem hi) []
  have hc' := column_transposed h' (List.getElem?_eq_getElem hi') []
  rw [← hc, ← hc', he]

end Batch

namespace Csv

def text? (n : Nat) (r : Record) : Option (List String) :=
  if r.length = n then r.mapM id else none

theorem texts?_eq (n : Nat) (rs : List Record) : texts? n rs = rs.mapM (text? n) := by
  rw [texts?]
  split
  · next h =>
    refine mapM_congr_option fun r hr => ?_
    rw [text?, if_pos (of_decide_eq_true (List.all_eq_true.1 h r hr))]
  · next h =>
    simp only [List.all_eq_true, decide_eq_true_eq, not_forall] at h
    obtain ⟨r, hr, hne⟩ := h
    exact (mapM_eq_none_iff.2 ⟨r, hr, if_neg hne⟩).symm

theorem texts?_append (n : Nat) (rs rs' : List Record) : texts? n (rs ++ rs') =
    (texts? n rs).bind fun ts => (texts? n rs').map (ts ++ ·) := by
  rw [texts?_eq, texts?_eq, texts?_eq, mapM_append_option]

theorem length_of_text? {r : Record} (h : text? n r = some t) : t.length = n := by
  rw [text?] at h
  split at h
  · next hr => rw [← hr, length_of_mapM_some h]
  · cases h

theorem length_of_texts? {rs : List Record} (h : texts? n rs = some ts) (ht : t ∈ ts) :
    t.length = n := by
  rw [texts?_eq] at h
  have hmem : some t ∈ rs.map (text? n) := by
    rw [mapM_eq_some_iff.1 h]
    exact List.mem_map_of_mem ht
  obtain ⟨r, -, hr⟩ := List.mem_map.1 hmem
  exact length_of_text? hr

def readLine? (schema : Schema) (fields : List String) : Option Row :=
  (schema.zip fields).mapM fun (f, s) => readField? f.type s

theorem readBlock_eq (schema : Schema) (block : List Record) :
    (readBlock schema block).toOption =
      (texts? schema.length block).bind fun ts => ts.mapM (readLine? schema) := by
  rw [readBlock]
  cases texts? schema.length block with
  | none => rfl
  | some ts =>
    show (match ts.mapM (readLine? schema) with
      | some rows => Except.ok rows
      | none => _).toOption = _
    cases h : ts.mapM (readLine? schema) with
    | none => rw [Option.bind_some, h]; rfl
    | some rows => rw [Option.bind_some, h]; rfl

/-- That records are read in blocks does not show. -/
theorem readRows_eq (schema : Schema) (rs : List Record) : (readRows schema rs).toOption =
    (texts? schema.length rs).bind fun ts => ts.mapM (readLine? schema) := by
  induction hn : rs.length using Nat.strongRecOn generalizing rs with
  | _ n ih =>
    rw [readRows]
    split
    · next h =>
      subst h
      rfl
    · next h =>
      have hlt : (rs.drop blockSize).length < n := by
        have hpos := List.length_pos_iff.2 h
        rw [List.length_drop, blockSize]
        omega
      have hrest := ih _ hlt _ rfl
      have hsplit := texts?_append schema.length (rs.take blockSize) (rs.drop blockSize)
      rw [List.take_append_drop] at hsplit
      simp only [Except.toOption_bind, readBlock_eq, hrest, hsplit]
      cases texts? schema.length (rs.take blockSize) with
      | none => rfl
      | some ts =>
        cases texts? schema.length (rs.drop blockSize) with
        | none => cases h : ts.mapM (readLine? schema) <;> simp [h]
        | some us =>
          simp only [Option.bind_some, Option.map_some, mapM_append_option]
          cases ts.mapM (readLine? schema) with
          | none => rfl
          | some rows => cases us.mapM (readLine? schema) <;> rfl

/-- The text of a line under a name of the header. -/
def fieldOf (names fields : List String) (name : String) : String :=
  fields.getD (names.idxOf name) ""

def fieldsOf (names : List String) (ts : List (List String)) (name : String) : List String :=
  ts.map fun fields => fieldOf names fields name

theorem zip_eq_map {schema : Schema} (hn : (schema.map Field.name).Nodup)
    (hl : t.length = schema.length) :
    schema.zip t = schema.map fun f => (f, fieldOf (schema.map Field.name) t f.name) := by
  refine List.ext_getElem (by simp [hl]) fun i hi hi' => ?_
  have hi'' : i < schema.length := by rwa [List.length_map] at hi'
  have hidx : (schema.map Field.name).idxOf schema[i].name = i := by
    have hget := hn.idxOf_getElem i (by rwa [List.length_map])
    rwa [List.getElem_map] at hget
  rw [List.getElem_zip, List.getElem_map, fieldOf, hidx, List.getD_eq_getElem?_getD,
    List.getElem?_eq_getElem (by rwa [hl])]
  rfl

/-- Lines that are read under a schema are read column by column. -/
theorem mapM_readLine?_eq {schema : Schema} (hn : (schema.map Field.name).Nodup)
    (hl : ∀ t ∈ ts, t.length = schema.length) :
    ts.mapM (readLine? schema) =
      (schema.mapM fun f =>
        (fieldsOf (schema.map Field.name) ts f.name).mapM (readField? f.type)).map
          (Batch.transposed ts.length) := by
  have hline : ∀ t ∈ ts, readLine? schema t =
      schema.mapM fun f => readField? f.type (fieldOf (schema.map Field.name) t f.name) := by
    intro t ht
    rw [readLine?, zip_eq_map hn (hl t ht), List.mapM_map]
    rfl
  rw [mapM_congr_option hline, Batch.mapM_transposed]
  simp only [fieldsOf, List.mapM_map]
  rfl

/-- The type that the first lines show for a column. -/
def shownType (fields : List String) : DataType := inferType (fields.take sampleSize)

/-- The columns that a file shows. -/
def shownSchema (names : List String) (ts : List (List String)) : Schema :=
  names.map fun name => ⟨name, shownType (fieldsOf names ts name), true⟩

theorem inferSchema_eq {recs : List Record} (hh : recs.headD [] = names.map some)
    (hn : names.Nodup) (ht : texts? names.length recs.tail = some ts) :
    inferSchema recs = .ok (shownSchema names ts) := by
  have hsample : texts? names.length (recs.tail.take sampleSize) = some (ts.take sampleSize) := by
    rw [texts?_eq] at ht ⊢
    exact mapM_take ht _
  have hnames : (names.map some).mapM id = some names := mapM_eq_some_iff.2 (List.map_id _)
  have hschema : (names.mapIdx fun i name =>
      (⟨name, inferType ((ts.take sampleSize).map (·.getD i "")), true⟩ : Field)) =
        shownSchema names ts := by
    refine List.ext_getElem (by simp [shownSchema]) fun i hi hi' => ?_
    have hidx := hn.idxOf_getElem i (by rwa [List.length_mapIdx] at hi)
    simp only [shownSchema, shownType, fieldsOf, fieldOf, List.getElem_mapIdx, List.getElem_map,
      hidx, List.map_take]
  cases recs with
  | nil =>
    cases List.map_eq_nil_iff.1 hh.symm
    rfl
  | cons header rows =>
    cases hh
    rw [inferSchema, hnames, List.length_map]
    rw [List.tail_cons] at hsample
    rw [hsample]
    exact congrArg Except.ok hschema

/-- The cells of a column whose fields are read as its declared type. -/
def asDeclared (type : DataType) (fields : List String) : Option (List Cell) :=
  fields.mapM (readField? type)

def asShown (type : DataType) (fields : List String) : Option (List Cell) :=
  (asDeclared (shownType fields) fields).bind fun cells =>
    (Cast.column (shownType fields) type cells).toOption

/-- The table of a file whose columns are read one by one. -/
def readBy (read : DataType → List String → Option (List Cell)) (schema : Schema)
    (names : List String) (ts : List (List String)) : Option Batch :=
  (schema.mapM fun f => read f.type (fieldsOf names ts f.name)).map fun columns =>
    ⟨schema, Batch.transposed ts.length columns⟩

theorem readBy_eq_none_iff {read : DataType → List String → Option (List Cell)} :
    readBy read schema names ts = none ↔
      ∃ f ∈ schema, read f.type (fieldsOf names ts f.name) = none := by
  rw [readBy, Option.map_eq_none_iff, mapM_eq_none_iff]

def KeepsLength (read : DataType → List String → Option (List Cell)) : Prop :=
  ∀ type fields cells, read type fields = some cells → cells.length = fields.length

theorem keepsLength_asDeclared : KeepsLength asDeclared := fun _ _ _ h => length_of_mapM_some h

theorem keepsLength_asShown : KeepsLength asShown := by
  intro type fields cells h
  obtain ⟨shown, hshown, hcast⟩ := Option.bind_eq_some_iff.1 h
  rw [← keepsLength_asDeclared _ _ _ hshown]
  cases hc : Cast.column (shownType fields) type shown with
  | error e =>
    rw [hc] at hcast
    cases hcast
  | ok converted =>
    rw [hc] at hcast
    cases hcast
    exact Cast.length_of_column hc

theorem asShown_of_shownType (h : shownType fields = type) :
    asShown type fields = asDeclared type fields := by
  rw [asShown, h]
  cases asDeclared type fields with
  | none => rfl
  | some cells => rw [Option.bind_some, Cast.column_self]; rfl

theorem length_of_inferSchema {recs : List Record} (h : inferSchema recs = .ok found) :
    found.length = (recs.headD []).length := by
  cases recs with
  | nil =>
    cases h
    rfl
  | cons header rows =>
    rw [inferSchema] at h
    split at h
    · next names sample hnames _ =>
      cases h
      rw [List.length_mapIdx, length_of_mapM_some hnames]
      rfl
    · cases h

theorem names_shownSchema (names : List String) (ts : List (List String)) :
    (shownSchema names ts).map Field.name = names := by
  rw [shownSchema, List.map_map]
  exact List.map_id _

theorem readRows_toBatch {schema : Schema} {rs : List Record}
    (hn : (schema.map Field.name).Nodup) (ht : texts? schema.length rs = some ts) :
    (readRows schema rs).toOption.map (Batch.mk schema) =
      readBy asDeclared schema (schema.map Field.name) ts := by
  rw [readRows_eq, ht, Option.bind_some,
    mapM_readLine?_eq hn fun t hmem => length_of_texts? ht hmem, Option.map_map]
  rfl

/-- What is read of a file, before its columns are brought under the declared ones. -/
theorem read_eq {declared : Schema} {bytes : List UInt8} {delimiter : Char}
    (hh : (records delimiter bytes).headD [] = names.map some) (hn : names.Nodup)
    (hl : names.length = declared.length) :
    (read delimiter declared bytes).toOption =
      (texts? names.length (records delimiter bytes).tail).bind fun ts =>
        if names = declared.map Field.name then readBy asDeclared declared names ts
        else readBy asDeclared (shownSchema names ts) names ts := by
  rw [read, Except.toOption_bind]
  cases ht : texts? names.length (records delimiter bytes).tail with
  | none =>
    cases hf : inferSchema (records delimiter bytes) with
    | error e => rfl
    | ok found =>
      have hlen : (if sameLayout found declared then declared else found).length =
          names.length := by
        split
        · exact hl.symm
        · rw [length_of_inferSchema hf, hh, List.length_map]
      rw [Option.bind_none]
      show (readRows _ _ >>= _).toOption = none
      rw [Except.toOption_bind, readRows_eq, hlen, ht]
      rfl
  | some ts =>
    have hlayout : sameLayout (shownSchema names ts) declared =
        decide (names = declared.map Field.name) := by rw [sameLayout, names_shownSchema]
    rw [inferSchema_eq hh hn ht, Option.bind_some]
    show Except.toOption (readRows (if sameLayout (shownSchema names ts) declared then declared
      else shownSchema names ts) _ >>= _) = _
    rw [hlayout, Except.toOption_bind]
    by_cases hd : names = declared.map Field.name
    · have hbatch := readRows_toBatch (hd ▸ hn) (hl ▸ ht)
      rw [← hd, Option.map_eq_bind] at hbatch
      rw [if_pos hd, if_pos (decide_eq_true hd)]
      exact hbatch
    · have hlen : (shownSchema names ts).length = names.length := List.length_map _
      have hbatch := readRows_toBatch ((names_shownSchema names ts).symm ▸ hn) (hlen ▸ ht)
      rw [names_shownSchema, Option.map_eq_bind] at hbatch
      rw [if_neg hd, if_neg (by rw [decide_eq_false hd]; exact Bool.false_ne_true)]
      exact hbatch

section Conform

variable {declared : Schema} {names : List String} {ts : List (List String)} {b : Batch}

theorem indexOf?_shownSchema (h : name ∈ names) :
    (shownSchema names ts).indexOf? name = some (names.idxOf name) := by
  rw [Schema.indexOf?, shownSchema, List.findIdx?_map, List.findIdx?_eq_some_iff_findIdx_eq]
  have hidx : names.findIdx ((fun f : Field => decide (f.name = name)) ∘ fun name =>
      ⟨name, shownType (fieldsOf names ts name), true⟩) = names.idxOf name := rfl
  rw [hidx]
  exact ⟨List.idxOf_lt_length_of_mem h, rfl⟩

theorem length_of_columns {read : DataType → List String → Option (List Cell)} {schema : Schema}
    (hread : KeepsLength read)
    (h : (schema.mapM fun f => read f.type (fieldsOf names ts f.name)) = some columns) :
    ∀ c ∈ columns, c.length = ts.length := by
  intro c hc
  obtain ⟨f, -, hf⟩ := List.mem_map.1 (mapM_eq_some_iff.1 h ▸ List.mem_map_of_mem hc)
  rw [hread _ _ _ hf, fieldsOf, List.length_map]

/-- A column that is brought under a declared type is read and cast by itself. -/
theorem cellsFor_shown (hf : f.name ∈ names)
    (hb : readBy asDeclared (shownSchema names ts) names ts = some b) :
    (b.cellsFor f).toOption = asShown f.type (fieldsOf names ts f.name) := by
  obtain ⟨columns, hcolumns, rfl⟩ := Option.map_eq_some_iff.1 hb
  have hlt := List.idxOf_lt_length_of_mem hf
  have hfield : (shownSchema names ts)[names.idxOf f.name]? =
      some ⟨f.name, shownType (fieldsOf names ts f.name), true⟩ := by
    rw [shownSchema, List.getElem?_map, List.getElem?_eq_getElem hlt, List.getElem_idxOf]
    rfl
  have hlength := length_of_columns keepsLength_asDeclared hcolumns
  have hcell := congrArg (fun l => l[names.idxOf f.name]?) (mapM_eq_some_iff.1 hcolumns)
  simp only [List.getElem?_map, hfield, Option.map_some] at hcell
  obtain ⟨c, hc, he⟩ := Option.map_eq_some_iff.1 hcell.symm
  rw [Batch.cellsFor, indexOf?_shownSchema hf]
  dsimp only
  rw [hfield, Batch.column_transposed hlength hc, asShown, ← he]
  rfl

theorem ofRows_eq_ok {schema : Schema} (hne : schema ≠ [])
    (hnull : ∀ f ∈ schema, f.nullable = true) (rows : List Row) :
    Batch.ofRows schema rows = .ok ⟨schema, rows⟩ := by
  rw [Batch.ofRows, if_neg hne, if_neg]
  rw [List.any_eq_true]
  rintro ⟨row, -, hrow⟩
  obtain ⟨⟨f, c⟩, hmem, hc⟩ := List.any_eq_true.1 hrow
  have hrefuses : f.refuses c = true := hc
  rw [Field.refuses, hnull f (List.of_mem_zip hmem).1] at hrefuses
  cases hrefuses

theorem conform_shown (hd : names ≠ declared.map Field.name)
    (hp : names.Perm (declared.map Field.name)) (hnull : ∀ f ∈ declared, f.nullable = true)
    (hb : readBy asDeclared (shownSchema names ts) names ts = some b) :
    (b.conform declared).toOption = readBy asShown declared names ts := by
  have hdeclared : declared ≠ [] := by
    rintro rfl
    exact hd hp.eq_nil
  have hcells : declared.mapM (fun f => (b.cellsFor f).toOption) =
      declared.mapM fun f => asShown f.type (fieldsOf names ts f.name) :=
    mapM_congr_option fun f hf =>
      cellsFor_shown (hp.mem_iff.2 (List.mem_map_of_mem hf)) hb
  obtain ⟨columns, hcolumns, rfl⟩ := Option.map_eq_some_iff.1 hb
  have hsize : Batch.size ⟨shownSchema names ts, Batch.transposed ts.length columns⟩ = ts.length :=
    Batch.length_transposed (length_of_columns keepsLength_asDeclared hcolumns)
  rw [Batch.conform, if_neg fun he => hd (by rw [← he, names_shownSchema]), Except.toOption_bind,
    Except.toOption_mapM, hcells, readBy, Option.map_eq_bind, hsize]
  congr 1
  funext columns
  rw [ofRows_eq_ok hdeclared hnull]
  rfl

theorem rows_readBy_eq_nil_iff {read : DataType → List String → Option (List Cell)}
    (hread : KeepsLength read) (hb : readBy read declared names ts = some b) :
    b.rows = [] ↔ ts = [] := by
  obtain ⟨columns, hcolumns, rfl⟩ := Option.map_eq_some_iff.1 hb
  rw [← List.length_eq_zero_iff, ← List.length_eq_zero_iff,
    Batch.length_transposed (length_of_columns hread hcolumns)]

theorem schema_of_readBy {read : DataType → List String → Option (List Cell)}
    (hb : readBy read declared names ts = some b) : b.schema = declared := by
  obtain ⟨columns, -, rfl⟩ := Option.map_eq_some_iff.1 hb
  rfl

theorem readBy_nil {read : DataType → List String → Option (List Cell)}
    (h : ∀ f ∈ declared, read f.type [] = some []) :
    readBy read declared names [] = some (.empty declared) := by
  have hcolumns : declared.mapM (fun f => read f.type (fieldsOf names [] f.name)) =
      some (declared.map fun _ => []) := by
    refine mapM_eq_some_iff.2 ?_
    rw [List.map_map]
    exact List.map_congr_left h
  have hrows : Batch.transposed 0 (declared.map fun _ => []) = [] := by
    rw [← List.length_eq_zero_iff]
    refine Batch.length_transposed fun c hc => ?_
    obtain ⟨_, -, rfl⟩ := List.mem_map.1 hc
    rfl
  rw [readBy, hcolumns, Option.map_some, List.length_nil, hrows]
  rfl

theorem readBy_shown_eq_none (hp : names.Perm (declared.map Field.name))
    (h : readBy asDeclared (shownSchema names ts) names ts = none) :
    readBy asShown declared names ts = none := by
  obtain ⟨g, hg, hnone⟩ := readBy_eq_none_iff.1 h
  obtain ⟨name, hname, rfl⟩ := List.mem_map.1 hg
  obtain ⟨f, hf, rfl⟩ := List.mem_map.1 (hp.mem_iff.1 hname)
  exact readBy_eq_none_iff.2 ⟨f, hf, by rw [asShown, hnone]; rfl⟩

end Conform

end Csv

def FileStore.recordsAt (store : FileStore) (path : String) :
    Except QueryError (List Csv.Record) :=
  (store.readPlain path).map (Csv.records (Csv.delimiter path))

namespace TableReference

open Csv

variable {t : TableReference} {store : FileStore} {recs : List Record}

def ofFile (t : TableReference) (path : String) : TableReference := { t with locations := [path] }

theorem names_schema (hl : t.columnNames.length = t.columnTypes.length) :
    t.schema.map Field.name = t.columnNames := by
  rw [schema, List.map_map]
  exact List.map_fst_zip (Nat.le_of_eq hl)

theorem nullable_schema (hf : f ∈ t.schema) : f.nullable = true := by
  obtain ⟨_, -, rfl⟩ := List.mem_map.1 hf
  rfl

theorem asShown_nil (hf : f ∈ t.schema) : asShown f.type [] = some [] := by
  obtain ⟨⟨name, type⟩, -, rfl⟩ := List.mem_map.1 hf
  cases type <;> rfl

/-- How the columns of a file are read whose header gives some names. -/
def reading (t : TableReference) (names : List String) :
    DataType → List String → Option (List Cell) :=
  if names = t.columnNames then asDeclared else asShown

/-- A file comes to the table of its columns, each read by itself. -/
theorem loadFile_eq (hk : t.kind = .csv) (hl : t.columnNames.length = t.columnTypes.length)
    (hr : store.recordsAt path = .ok recs) (hh : recs.headD [] = names.map some)
    (hp : names.Perm t.columnNames) (hn : names.Nodup) (i : Nat) :
    (t.loadFile store path i).toOption =
      (texts? names.length recs.tail).bind (readBy (t.reading names) t.schema names) := by
  obtain ⟨bytes, hbytes, rfl⟩ := Except.map_eq_ok_iff.1 hr
  have hnames := names_schema hl
  have hread : (Csv.read (delimiter path) t.schema bytes).toOption = _ := read_eq hh hn (by
    rw [hp.length_eq, ← hnames, List.length_map])
  rw [loadFile, readFile, hk, hbytes, Except.ok_bind, Except.toOption_bind, hread, reading, hnames]
  cases texts? names.length (records (delimiter path) bytes).tail with
  | none => rfl
  | some ts =>
    rw [Option.bind_some, Option.bind_some]
    split
    · next hd =>
      cases hb : readBy asDeclared t.schema names ts with
      | none => rfl
      | some b =>
        have hschema := schema_of_readBy hb
        rw [Option.bind_some]
        split
        · next hrows =>
          rw [Batch.empty, ← hschema, ← hrows]
          rfl
        · rw [Batch.conform, if_pos hschema]
          rfl
    · next hd =>
      rw [← hnames] at hd hp
      cases hb : readBy asDeclared (shownSchema names ts) names ts with
      | none => exact (readBy_shown_eq_none hp hb).symm
      | some b =>
        rw [Option.bind_some]
        split
        · next hrows =>
          cases (rows_readBy_eq_nil_iff keepsLength_asDeclared hb).1 hrows
          exact (readBy_nil fun f hf => asShown_nil hf).symm
        · exact conform_shown hd hp (fun f hf => nullable_schema hf) hb

theorem load_ofFile_eq (hk : t.kind = .csv) (hl : t.columnNames.length = t.columnTypes.length)
    (hr : store.recordsAt path = .ok recs) (hh : recs.headD [] = names.map some)
    (hp : names.Perm t.columnNames) (hn : names.Nodup) :
    ((t.ofFile path).load store).toOption =
      (texts? names.length recs.tail).bind (readBy (t.reading names) t.schema names) := by
  have hload : (t.ofFile path).load store =
      t.loadFile store path 0 >>= fun b => .ok (.concat t.schema [b]) := by
    show (t.loadFile store path 0 >>= fun b => _) >>= _ = _
    cases t.loadFile store path 0 <;> rfl
  rw [hload, Except.toOption_bind, loadFile_eq hk hl hr hh hp hn]
  cases h : (texts? names.length recs.tail).bind (readBy (t.reading names) t.schema names) with
  | none => rfl
  | some b =>
    obtain ⟨ts, -, hb⟩ := Option.bind_eq_some_iff.1 h
    rw [Option.bind_some, Batch.concat, List.flatMap_singleton, ← schema_of_readBy hb]
    rfl

end TableReference

end ShardQuery
