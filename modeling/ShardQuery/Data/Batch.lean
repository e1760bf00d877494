import ShardQuery.Data.Type

namespace ShardQuery

/-- One value of a table. Dates, timestamps, durations and decimals are counted in their unit, and
intervals are held by their numbers. -/
inductive Cell where
  | null
  | int (i : Int)
  /-- The bit pattern of a float. -/
  | float (bits : Nat)
  | bool (b : Bool)
  | text (s : String)
deriving DecidableEq, Repr

def Cell.isNull : Cell → Bool
  | null => true
  | _ => false

structure Field where
  name : String
  type : DataType
  nullable : Bool
deriving DecidableEq, Repr

/-- Whether a column may not hold a cell. A column of nulls always may. -/
def Field.refuses (f : Field) (c : Cell) : Bool := !f.nullable && f.type ≠ .null && c.isNull

abbrev Schema := List Field

/-- The position of the first column of a name. -/
def Schema.indexOf? (schema : Schema) (name : String) : Option Nat :=
  schema.findIdx? (·.name = name)

abbrev Row := List Cell

def Row.cell (row : Row) (i : Nat) : Cell := row.getD i .null

def Row.pick (row : Row) (positions : List Nat) : Row := positions.map row.cell

structure Batch where
  schema : Schema
  rows : List Row
deriving DecidableEq, Repr

namespace Batch

def size (b : Batch) : Nat := b.rows.length

def empty (schema : Schema) : Batch := ⟨schema, []⟩

def column (b : Batch) (i : Nat) : List Cell := b.rows.map (Row.cell · i)

def project (b : Batch) (positions : List Nat) : Batch :=
  ⟨positions.filterMap (b.schema[·]?), b.rows.map (Row.pick · positions)⟩

def filter (p : Row → Bool) (b : Batch) : Batch := ⟨b.schema, b.rows.filter p⟩

def take (n : Nat) (b : Batch) : Batch := ⟨b.schema, b.rows.take n⟩

def slice (b : Batch) (start len : Nat) : Batch := ⟨b.schema, (b.rows.drop start).take len⟩

/-- The rows of several tables in order under one schema. -/
def concat (schema : Schema) (batches : List Batch) : Batch :=
  ⟨schema, batches.flatMap Batch.rows⟩

def type? (b : Batch) (i : Nat) : Option DataType := (b.schema[i]?).map Field.type

/-- The first column of a schema that one of several tables lacks, or has in another type. -/
def misfit? (schema : Schema) (batches : List Batch) : Option Nat :=
  (List.range schema.length).find? fun i =>
    batches.any fun b => b.type? i ≠ (schema[i]?).map Field.type

def narrow (n : Nat) (b : Batch) : Batch :=
  if b.schema.length ≤ n then b else b.project (List.range n)

/-- Whether a column that may hold nulls has one where a schema allows none. -/
def breaks (schema : Schema) (b : Batch) : Bool :=
  (schema.zip b.schema).zipIdx.any fun ((f, g), i) => g.nullable && (b.column i).any f.refuses

/-- The rows of several tables under the columns of a schema, if they go together. -/
def join? (schema : Schema) (batches : List Batch) : Option Batch :=
  if (misfit? schema batches).isSome || batches.any (breaks schema) then none
  else some (concat schema (batches.map (narrow schema.length)))

variable {schema : Schema}

theorem misfit?_of_schema {batches : List Batch} (h : ∀ b ∈ batches, b.schema = schema) :
    misfit? schema batches = none := by
  rw [misfit?, List.find?_eq_none]
  intro i _ hany
  obtain ⟨b, hb, hne⟩ := List.any_eq_true.1 hany
  rw [type?, h b hb] at hne
  exact of_decide_eq_true hne rfl

theorem not_breaks_of_schema {b : Batch} (h : b.schema = schema) : breaks schema b = false := by
  rw [← Bool.not_eq_true]
  intro hbreaks
  obtain ⟨⟨⟨f, g⟩, i⟩, hmem, hnull⟩ := List.any_eq_true.1 hbreaks
  obtain ⟨hnullable, hrefuses⟩ := Bool.and_eq_true_iff.1 hnull
  obtain ⟨c, -, hc⟩ := List.any_eq_true.1 hrefuses
  have hfg : f = g := by
    rw [h] at hmem
    have hzip := List.fst_mem_of_mem_zipIdx hmem
    obtain ⟨j, hj⟩ := List.getElem?_of_mem hzip
    obtain ⟨hf, hg⟩ := List.getElem?_zip_eq_some.1 hj
    exact Option.some.inj (hf.symm.trans hg)
  rw [Field.refuses, hfg, hnullable] at hc
  cases hc

/-- Tables of one schema go together as they are. -/
theorem join?_of_schema {batches : List Batch} (h : ∀ b ∈ batches, b.schema = schema) :
    join? schema batches = some (concat schema batches) := by
  have hbreaks : ¬ batches.any (breaks schema) = true := by
    intro hany
    obtain ⟨b, hb, hbreaks⟩ := List.any_eq_true.1 hany
    rw [not_breaks_of_schema (h b hb)] at hbreaks
    cases hbreaks
  have hnarrow : batches.map (narrow schema.length) = batches := by
    rw [List.map_congr_left (g := id), List.map_id]
    intro b hb
    rw [narrow, h b hb, if_pos (Nat.le_refl _)]
    rfl
  rw [join?, misfit?_of_schema h, hnarrow, if_neg]
  simpa using hbreaks

end Batch

end ShardQuery
